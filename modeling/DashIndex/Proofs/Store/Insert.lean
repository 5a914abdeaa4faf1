import DashIndex.Store.Version
import Mathlib.Data.List.Nodup

/-!
# What one addition does

An addition is one of two things: the row of its uid is brought up to date, or a
new row is put after the others under the next number of the sequence. In either
case the tags of that row, and no others, are replaced. `insert_cases` says this
once; the lemmas after it read off what becomes of the row of a uid and of the
tags under a number, and the rest of the development goes through these.
-/

namespace DashIndex

/-- A row brought up to date: number, uid and time of creation stay. -/
def Row.update (r : Row) (d : Dashboard) : Row :=
  { r with title := d.title, folder := d.folder, views := d.views, updatedAt := d.updatedAt }

/-- The row of a dashboard that was not there before. -/
def Row.ofDashboard (id : Int) (d : Dashboard) : Row :=
  ⟨id, d.uid, d.title, d.folder, d.views, d.createdAt, d.updatedAt⟩

@[simp] theorem Row.update_id (r : Row) (d : Dashboard) : (r.update d).id = r.id := rfl
@[simp] theorem Row.update_uid (r : Row) (d : Dashboard) : (r.update d).uid = r.uid := rfl
@[simp] theorem Row.ofDashboard_id (id : Int) (d : Dashboard) :
    (Row.ofDashboard id d).id = id := rfl
@[simp] theorem Row.ofDashboard_uid (id : Int) (d : Dashboard) :
    (Row.ofDashboard id d).uid = d.uid := rfl

namespace Store

/-- The row itself, or the row brought up to date if it is the one of the dashboard. -/
def refreshed (d : Dashboard) (r : Row) : Row := if r.uid == d.uid then r.update d else r

theorem refreshed_id (d : Dashboard) (r : Row) : (refreshed d r).id = r.id := by
  unfold refreshed; split <;> rfl

theorem refreshed_uid (d : Dashboard) (r : Row) : (refreshed d r).uid = r.uid := by
  unfold refreshed; split <;> rfl

theorem refreshed_of_ne {d : Dashboard} {r : Row} (h : r.uid ≠ d.uid) : refreshed d r = r := by
  rw [refreshed, if_neg (by simpa using h)]

theorem refreshed_of_eq {d : Dashboard} {r : Row} (h : r.uid = d.uid) :
    refreshed d r = r.update d := by
  rw [refreshed, if_pos (by simpa using h)]

/-! ## Looking up a uid -/

theorem uid_of_row? {s : Store} {u : String} {r : Row} (h : s.row? u = some r) : r.uid = u := by
  simpa using List.find?_some h

theorem mem_of_row? {s : Store} {u : String} {r : Row} (h : s.row? u = some r) : r ∈ s.rows :=
  List.mem_of_find?_eq_some h

theorem row?_eq_none {s : Store} {u : String} : s.row? u = none ↔ ∀ r ∈ s.rows, r.uid ≠ u := by
  simp [row?, List.find?_eq_none]

/-- With one row per uid, the row of a uid is the row that carries it. -/
theorem row?_eq_some {s : Store} (h : (s.rows.map Row.uid).Nodup) {u : String} {r : Row} :
    s.row? u = some r ↔ r ∈ s.rows ∧ r.uid = u := by
  constructor
  · exact fun hr => ⟨mem_of_row? hr, uid_of_row? hr⟩
  · rintro ⟨hr, hu⟩
    cases hq : s.row? u with
    | none => exact absurd hu (row?_eq_none.mp hq r hr)
    | some q =>
        have hqr : q = r := List.inj_on_of_nodup_map h (mem_of_row? hq) hr
          (by rw [uid_of_row? hq, hu])
        rw [hqr]

theorem find?_map_refreshed (rows : List Row) (d : Dashboard) (u : String) :
    (rows.map (refreshed d)).find? (·.uid == u) = (rows.find? (·.uid == u)).map (refreshed d) := by
  rw [List.find?_map]
  congr 2
  funext r
  simp only [Function.comp_apply, refreshed_uid]

/-! ## The two cases -/

/-- The store after the row of `d` was brought up to date under the number `id`. -/
def updated (s : Store) (id : Int) (d : Dashboard) : Store :=
  { s with
    rows := s.rows.map (refreshed d)
    tags := replaceTags s.tags id d.tags
    lastId := s.lastId + 1 }

/-- The store after `d` was given a row of its own. -/
def extended (s : Store) (d : Dashboard) : Store :=
  { s with
    rows := s.rows ++ [Row.ofDashboard (s.lastId + 1) d]
    tags := replaceTags s.tags (s.lastId + 1) d.tags
    lastId := s.lastId + 1 }

/-- **An addition updates the row of its uid, or makes one.** -/
theorem insert_cases (s : Store) (d : Dashboard) :
    (∃ r, s.row? d.uid = some r ∧ s.insert d = (r.id, s.updated r.id d))
      ∨ (s.row? d.uid = none ∧ s.insert d = (s.lastId + 1, s.extended d)) := by
  cases hr : s.row? d.uid with
  | some r =>
      left
      refine ⟨r, rfl, ?_⟩
      have hany : s.rows.any (·.uid == d.uid) = true :=
        List.any_eq_true.mpr ⟨r, mem_of_row? hr, by simpa using uid_of_row? hr⟩
      have hput : putRow s.rows (s.lastId + 1) d = s.rows.map (refreshed d) := by
        rw [putRow, if_pos hany]; rfl
      -- the number is looked up after the update, which leaves all uids and numbers as they are
      have hid : ((s.rows.map (refreshed d)).find? (·.uid == d.uid)).map (·.id) = some r.id := by
        rw [find?_map_refreshed, show s.rows.find? (·.uid == d.uid) = some r from hr]
        exact congrArg some (refreshed_id d r)
      simp only [insert, hput, hid, Option.getD_some, updated]
  | none =>
      right
      refine ⟨rfl, ?_⟩
      have hany : ¬ s.rows.any (·.uid == d.uid) = true := by
        rw [List.any_eq_true]
        rintro ⟨r, hmem, hu⟩
        exact row?_eq_none.mp hr r hmem (by simpa using hu)
      have hput : putRow s.rows (s.lastId + 1) d
          = s.rows ++ [Row.ofDashboard (s.lastId + 1) d] := by
        rw [putRow, if_neg hany]; rfl
      have hid : ((s.rows ++ [Row.ofDashboard (s.lastId + 1) d]).find? (·.uid == d.uid)).map (·.id)
          = some (s.lastId + 1) := by
        rw [List.find?_append, show s.rows.find? (·.uid == d.uid) = none from hr]
        simp
      simp only [insert, hput, hid, Option.getD_some, extended]

theorem insert_of_some {s : Store} {d : Dashboard} {r : Row} (h : s.row? d.uid = some r) :
    s.insert d = (r.id, s.updated r.id d) := by
  rcases insert_cases s d with ⟨q, hq, hins⟩ | ⟨hn, _⟩
  · rw [h] at hq
    obtain rfl := Option.some.inj hq
    exact hins
  · rw [h] at hn; exact absurd hn (by simp)

theorem insert_of_none {s : Store} {d : Dashboard} (h : s.row? d.uid = none) :
    s.insert d = (s.lastId + 1, s.extended d) := by
  rcases insert_cases s d with ⟨q, hq, _⟩ | ⟨_, hins⟩
  · rw [h] at hq; exact absurd hq (by simp)
  · exact hins

/-! ## The row of a uid afterwards -/

theorem row?_updated (s : Store) (id : Int) (d : Dashboard) (u : String) :
    (s.updated id d).row? u = (s.row? u).map (refreshed d) :=
  find?_map_refreshed s.rows d u

theorem row?_extended_self {s : Store} {d : Dashboard} (h : s.row? d.uid = none) :
    (s.extended d).row? d.uid = some (Row.ofDashboard (s.lastId + 1) d) := by
  show (s.rows ++ [_]).find? _ = _
  rw [List.find?_append, show s.rows.find? (·.uid == d.uid) = none from h]
  simp

theorem row?_extended_of_ne (s : Store) {d : Dashboard} {u : String} (h : u ≠ d.uid) :
    (s.extended d).row? u = s.row? u := by
  show (s.rows ++ [_]).find? _ = s.rows.find? _
  rw [List.find?_append, List.find?_singleton, if_neg (by simpa using h.symm), Option.or_none]

/-- A uid that is there keeps its row, brought up to date. -/
theorem row?_insert_of_some {s : Store} {d : Dashboard} {r : Row} (h : s.row? d.uid = some r) :
    (s.insert d).2.row? d.uid = some (r.update d) := by
  rw [insert_of_some h, row?_updated, h]
  exact congrArg some (refreshed_of_eq (uid_of_row? h))

/-- A new uid is given the next number. -/
theorem row?_insert_of_none {s : Store} {d : Dashboard} (h : s.row? d.uid = none) :
    (s.insert d).2.row? d.uid = some (Row.ofDashboard (s.lastId + 1) d) := by
  rw [insert_of_none h]
  exact row?_extended_self h

/-- **An addition leaves the rows of all other uids alone.** -/
theorem row?_insert_of_ne (s : Store) {d : Dashboard} {u : String} (h : u ≠ d.uid) :
    (s.insert d).2.row? u = s.row? u := by
  rcases insert_cases s d with ⟨r, _, hins⟩ | ⟨_, hins⟩
  · rw [hins, row?_updated]
    cases hu : s.row? u with
    | none => rfl
    | some q =>
        have hq : q.uid ≠ d.uid := by rw [uid_of_row? hu]; exact h
        exact congrArg some (refreshed_of_ne hq)
  · rw [hins]; exact row?_extended_of_ne s h

/-- The number that an addition returns is the one of the row of its uid. -/
theorem row?_insert_id (s : Store) (d : Dashboard) :
    ∃ r, (s.insert d).2.row? d.uid = some r ∧ r.id = (s.insert d).1 := by
  rcases insert_cases s d with ⟨r, hr, hins⟩ | ⟨hn, hins⟩
  · exact ⟨r.update d, row?_insert_of_some hr, by rw [hins]; rfl⟩
  · exact ⟨_, row?_insert_of_none hn, by rw [hins]; rfl⟩

/-! ## The tags afterwards -/

theorem mem_addTag {id : Int} {tags : List TagEntry} {term : String} {e : TagEntry} :
    e ∈ addTag id tags term ↔ e ∈ tags ∨ e = ⟨id, term⟩ := by
  unfold addTag
  split
  · rename_i h
    exact ⟨Or.inl, fun he => he.elim (fun h => h) (fun heq => heq ▸ h)⟩
  · rw [List.mem_append, List.mem_singleton]

theorem nodup_addTag {id : Int} {tags : List TagEntry} {term : String} (h : tags.Nodup) :
    (addTag id tags term).Nodup := by
  unfold addTag
  split
  · exact h
  · rename_i hnew
    exact List.nodup_append.mpr ⟨h, by simp, fun a ha b hb he => by
      rw [List.mem_singleton] at hb
      exact hnew (hb ▸ he ▸ ha)⟩

theorem mem_foldl_addTag {id : Int} {terms : List String} {tags : List TagEntry} {e : TagEntry} :
    e ∈ terms.foldl (addTag id) tags ↔ e ∈ tags ∨ (e.dashboard = id ∧ e.term ∈ terms) := by
  induction terms generalizing tags with
  | nil => simp
  | cons t terms ih =>
      rw [List.foldl_cons, ih, mem_addTag, List.mem_cons]
      obtain ⟨k, term⟩ := e
      simp only [TagEntry.mk.injEq]
      constructor
      · rintro ((h | ⟨h1, h2⟩) | ⟨h1, h2⟩)
        · exact Or.inl h
        · exact Or.inr ⟨h1, Or.inl h2⟩
        · exact Or.inr ⟨h1, Or.inr h2⟩
      · rintro (h | ⟨h1, h2 | h2⟩)
        · exact Or.inl (Or.inl h)
        · exact Or.inl (Or.inr ⟨h1, h2⟩)
        · exact Or.inr ⟨h1, h2⟩

theorem nodup_foldl_addTag {id : Int} {terms : List String} {tags : List TagEntry}
    (h : tags.Nodup) : (terms.foldl (addTag id) tags).Nodup := by
  induction terms generalizing tags with
  | nil => exact h
  | cons t terms ih => rw [List.foldl_cons]; exact ih (nodup_addTag h)

/-- A dashboard's tags are exchanged for others, and no other dashboard's are touched. -/
theorem mem_replaceTags {tags : List TagEntry} {id : Int} {terms : List String} {e : TagEntry} :
    e ∈ replaceTags tags id terms
      ↔ (e ∈ tags ∧ e.dashboard ≠ id) ∨ (e.dashboard = id ∧ e.term ∈ terms) := by
  rw [replaceTags, mem_foldl_addTag, List.mem_filter, bne_iff_ne]

theorem nodup_replaceTags {tags : List TagEntry} {id : Int} {terms : List String}
    (h : tags.Nodup) : (replaceTags tags id terms).Nodup :=
  nodup_foldl_addTag (h.filter _)

theorem insert_tags (s : Store) (d : Dashboard) :
    (s.insert d).2.tags = replaceTags s.tags (s.insert d).1 d.tags := rfl

theorem insert_lastId (s : Store) (d : Dashboard) : (s.insert d).2.lastId = s.lastId + 1 := rfl

/-- The entries of the other dashboards stay as they are, order included. -/
theorem filter_replaceTags_of_ne {tags : List TagEntry} {id k : Int} (terms : List String)
    (h : k ≠ id) : (replaceTags tags id terms).filter (·.dashboard == k)
      = tags.filter (·.dashboard == k) := by
  have hadd : ∀ (tags : List TagEntry) (t : String),
      (addTag id tags t).filter (·.dashboard == k) = tags.filter (·.dashboard == k) := by
    intro tags t
    unfold addTag
    split
    · rfl
    · rw [List.filter_append, List.filter_cons_of_neg (by simpa using h.symm), List.filter_nil,
        List.append_nil]
  have hfold : ∀ (terms : List String) (tags : List TagEntry),
      (terms.foldl (addTag id) tags).filter (·.dashboard == k)
        = tags.filter (·.dashboard == k) := by
    intro terms
    induction terms with
    | nil => exact fun _ => rfl
    | cons t terms ih => intro tags; rw [List.foldl_cons, ih, hadd]
  rw [replaceTags, hfold, List.filter_filter]
  refine List.filter_congr fun e _ => ?_
  by_cases he : e.dashboard = k
  · simp [he, h]
  · simp [he]

theorem mem_tagsFor {s : Store} {id : Int} {t : String} : t ∈ s.tagsFor id ↔ ⟨id, t⟩ ∈ s.tags := by
  simp only [tagsFor, List.mem_mergeSort, List.mem_map, List.mem_filter, beq_iff_eq]
  constructor
  · rintro ⟨e, ⟨he, hid⟩, ht⟩
    subst hid; subst ht; exact he
  · exact fun h => ⟨_, ⟨h, rfl⟩, rfl⟩

/-! ## What stays -/

end Store

end DashIndex
