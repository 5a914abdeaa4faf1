import DashIndex.Proofs.Store.Opening

/-!
# The numbers that additions return

The number an addition returns is looked up after the fact: for an update it is
the one of the row, while the sequence moves on all the same. So numbers say less
than the sequence does, and what they do say has to be carried along a run, that
is, along additions with openings of the store in between. `Numbers` is what is
carried: every number returned so far is still the one of its uid, and the uids
stand in the order in which they first came.
-/

namespace DashIndex.Store

/-- The number of a uid. -/
def number? (s : Store) (u : String) : Option Int := (s.row? u).map Row.id

/-- The uid that was added and the number that was returned for it. -/
structure Receipt where
  uid : String
  id : Int
  deriving DecidableEq, Repr

/-- A run of additions, in which the store is opened again at any point, and its receipts. -/
inductive Serves (s : Store) : List Receipt → Store → Prop where
  | start : Serves s [] s
  | add {rs : List Receipt} {s' : Store} (d : Dashboard) :
      Serves s rs s' → s'.lastId < Text.maxInt64 →
        Serves s (rs ++ [⟨d.uid, (s'.insert d).1⟩]) (s'.insert d).2
  | reopen {rs : List Receipt} {s' s'' : Store} :
      Serves s rs s' → s'.opened = (.ok (), s'') → Serves s rs s''

/-! ## The number of a uid -/

theorem number?_of_row? {s : Store} {u : String} {r : Row} (h : s.row? u = some r) :
    s.number? u = some r.id := by
  rw [number?, h]; rfl

theorem row?_of_number? {s : Store} {u : String} {n : Int} (h : s.number? u = some n) :
    ∃ r, s.row? u = some r ∧ r.id = n := by
  simpa [number?] using h

theorem WellFormed.number_taken {s : Store} (h : WellFormed s) {u : String} {n : Int}
    (hn : s.number? u = some n) : 0 < n ∧ n ≤ s.lastId := by
  obtain ⟨r, hr, rfl⟩ := row?_of_number? hn
  exact h.taken r (mem_of_row? hr)

/-- No two uids have one number. -/
theorem WellFormed.uid_of_number? {s : Store} (h : WellFormed s) {u v : String} {n : Int}
    (hu : s.number? u = some n) (hv : s.number? v = some n) : u = v := by
  obtain ⟨a, ha, rfl⟩ := row?_of_number? hu
  obtain ⟨b, hb, hba⟩ := row?_of_number? hv
  have hab : a = b := h.eq_of_id (mem_of_row? ha) (mem_of_row? hb) hba.symm
  rw [← uid_of_row? ha, ← uid_of_row? hb, hab]

/-! ## One step -/

/-- What an addition returns is the number of its uid from then on. -/
theorem number?_insert_self (s : Store) (d : Dashboard) :
    (s.insert d).2.number? d.uid = some (s.insert d).1 := by
  obtain ⟨r, hr, hid⟩ := row?_insert_id s d
  rw [number?_of_row? hr, hid]

/-- **An addition changes no number.** -/
theorem number?_insert {s : Store} {u : String} {n : Int} (h : s.number? u = some n)
    (d : Dashboard) : (s.insert d).2.number? u = some n := by
  obtain ⟨r, hr, rfl⟩ := row?_of_number? h
  by_cases hu : u = d.uid
  · subst hu
    rw [number?_of_row? (row?_insert_of_some hr), Row.update_id]
  · exact number?_of_row? (by rw [row?_insert_of_ne s hu, hr])

theorem number?_opened (s : Store) (u : String) : s.opened.2.number? u = s.number? u := by
  rw [number?, number?, row?, row?, (opened_data s).1]

/-- Opening a store is writing its note anew, if it is anything. -/
theorem reachable_opened {s : Store} (h : Reachable s) : Reachable s.opened.2 := by
  rcases opened_cases s with ⟨_, ho⟩ | ⟨_, ho⟩ | ⟨_, ho⟩
  · rw [ho]; exact h
  · rw [ho]; exact h
  · rw [ho]; exact h.note _

/-! ## The uids in the order in which they came -/

theorem eraseDups_of_nodup {us : List String} (h : us.Nodup) : us.eraseDups = us := by
  induction us with
  | nil => rfl
  | cons u us ih =>
      obtain ⟨hu, hus⟩ := List.nodup_cons.mp h
      have hall : us.filter (fun v => !v == u) = us :=
        List.filter_eq_self.mpr fun v hv => by
          simpa using fun he : v = u => hu (he ▸ hv)
      rw [List.eraseDups_cons, hall, ih hus]

theorem eraseDups_concat (us : List String) (u : String) :
    (us ++ [u]).eraseDups = if u ∈ us then us.eraseDups else us.eraseDups ++ [u] := by
  rw [List.eraseDups_append]
  split
  · rename_i hu
    simp [List.removeAll, hu]
  · rename_i hu
    simp [List.removeAll, hu, List.eraseDups_cons]

/-- A uid that was there keeps its place, any other comes last. -/
theorem uids_insert (s : Store) (d : Dashboard) : (s.insert d).2.rows.map Row.uid
    = if d.uid ∈ s.rows.map Row.uid then s.rows.map Row.uid
      else s.rows.map Row.uid ++ [d.uid] := by
  cases hr : s.row? d.uid with
  | some r =>
      rw [if_pos (List.mem_map.mpr ⟨r, mem_of_row? hr, uid_of_row? hr⟩), insert_of_some hr, updated,
        List.map_map]
      exact List.map_congr_left fun q _ => refreshed_uid d q
  | none =>
      have hd : d.uid ∉ s.rows.map Row.uid := by
        intro hmem
        obtain ⟨q, hq, hu⟩ := List.mem_map.mp hmem
        exact row?_eq_none.mp hr q hq hu
      rw [if_neg hd, insert_of_none hr, extended, List.map_append]
      rfl

/-! ## A whole run -/

/-- What a run that led from one store to another, with these receipts, says of numbers. -/
structure Numbers (s : Store) (rs : List Receipt) (s' : Store) : Prop where
  /-- A uid of the store at the start has its number still. -/
  kept : ∀ u n, s.number? u = some n → s'.number? u = some n
  /-- A uid that was added has the number that was returned for it. -/
  returned : ∀ e ∈ rs, s'.number? e.uid = some e.id
  /-- The uids stand in the order in which they first came. -/
  order : s'.rows.map Row.uid = (s.rows.map Row.uid ++ rs.map Receipt.uid).eraseDups

variable {s s' s'' : Store} {rs : List Receipt}

theorem Numbers.start (h : (s.rows.map Row.uid).Nodup) : Numbers s [] s where
  kept := fun _ _ hn => hn
  returned := by intro e he; exact absurd he List.not_mem_nil
  order := by rw [List.map_nil, List.append_nil, eraseDups_of_nodup h]

theorem Numbers.add (h : Numbers s rs s') (d : Dashboard) :
    Numbers s (rs ++ [⟨d.uid, (s'.insert d).1⟩]) (s'.insert d).2 where
  kept := fun u n hn => number?_insert (h.kept u n hn) d
  returned := by
    intro e he
    rcases List.mem_append.mp he with he | he
    · exact number?_insert (h.returned e he) d
    · -- the receipt that was just given
      rw [List.mem_singleton.mp he]
      exact number?_insert_self s' d
  order := by
    -- a uid has a row if and only if it came before, so both sides ask the same
    have hmem : d.uid ∈ s'.rows.map Row.uid
        ↔ d.uid ∈ s.rows.map Row.uid ++ rs.map Receipt.uid := by
      rw [h.order, List.mem_eraseDups]
    rw [uids_insert, List.map_append, ← List.append_assoc, List.map_singleton, eraseDups_concat]
    simp only [← hmem, ← h.order]

theorem Numbers.reopen (h : Numbers s rs s') : Numbers s rs s'.opened.2 where
  kept := fun u n hn => by rw [number?_opened]; exact h.kept u n hn
  returned := fun e he => by rw [number?_opened]; exact h.returned e he
  order := by rw [(opened_data s').1]; exact h.order

/-- A run leads from a store that comes about to one that does. -/
theorem Serves.reachable (h : Serves s rs s') (hs : Reachable s) : Reachable s' := by
  induction h with
  | start => exact hs
  | add d _ hlt ih => exact ih.insert d hlt
  | reopen _ ho ih =>
      have hopened := reachable_opened ih
      rwa [ho] at hopened

/-- **Every run carries the numbers along.** -/
theorem Serves.numbers (h : Serves s rs s') (hs : (s.rows.map Row.uid).Nodup) :
    Numbers s rs s' := by
  induction h with
  | start => exact .start hs
  | add d _ _ ih => exact ih.add d
  | reopen _ ho ih =>
      have hopened := ih.reopen
      rwa [ho] at hopened

/--
**A number is given to a uid for good, and later uids get greater ones.**

Along any run over a store that came about, additions with successful openings
anywhere in between: every number that was returned is a positive 64-bit integer.
Two additions returned the same number if and only if they had the same uid. One
more addition, if its uid is not stored, returns a number above all that were
returned and all that are in use. The rows stand by ascending number, and so in the
order in which their uids first came, those of the store at the start before the
added ones. And whatever run follows, no uid that is stored gets another number.
-/
theorem Serves.numbering (hs : Reachable s) (h : Serves s rs s') :
    (∀ e ∈ rs, 0 < e.id ∧ e.id ≤ Text.maxInt64)
      ∧ (∀ e ∈ rs, ∀ e' ∈ rs, e.id = e'.id ↔ e.uid = e'.uid)
      ∧ (∀ d : Dashboard, s'.row? d.uid = none →
          (∀ e ∈ rs, e.id < (s'.insert d).1) ∧ ∀ r ∈ s'.rows, r.id < (s'.insert d).1)
      ∧ (s'.rows.Pairwise (fun a b => a.id < b.id)
          ∧ s'.rows.map Row.uid = (s.rows.map Row.uid ++ rs.map Receipt.uid).eraseDups)
      ∧ (∀ rs' s'', Serves s' rs' s'' →
          ∀ u n, s'.number? u = some n → s''.number? u = some n) := by
  have hs' : Reachable s' := h.reachable hs
  have hwf : WellFormed s' := wellFormed_reachable hs'
  have hnum : Numbers s rs s' := h.numbers (wellFormed_reachable hs).uids
  have htaken : ∀ e ∈ rs, 0 < e.id ∧ e.id ≤ s'.lastId := by
    intro e he
    exact hwf.number_taken (hnum.returned e he)
  refine ⟨?_, ?_, ?_, ⟨hwf.ascending, hnum.order⟩, ?_⟩
  · intro e he
    have hlast := lastId_le_of_reachable hs'
    have htake := htaken e he
    omega
  · intro e he e' he'
    have hn := hnum.returned e he
    have hn' := hnum.returned e' he'
    constructor
    · intro hid
      exact hwf.uid_of_number? hn (by rw [hn', hid])
    · intro hu
      rw [hu, hn'] at hn
      exact (Option.some.inj hn).symm
  · intro d hd
    -- a new uid takes the next number of the sequence, which is above all taken so far
    rw [insert_of_none hd]
    constructor
    · intro e he
      have htake := htaken e he
      show e.id < s'.lastId + 1
      omega
    · intro r hr
      have htake := hwf.taken r hr
      show r.id < s'.lastId + 1
      omega
  · intro rs' s'' h' u n hn
    exact (h'.numbers hwf.uids).kept u n hn

/-- An update takes a number that nobody gets, and a store that is opened again goes on counting. -/
theorem numbering_across_reopening :
    Reachable (withNote "-007") ∧ ∃ s', Serves (withNote "-007") [⟨"a", 1⟩, ⟨"b", 3⟩] s'
      ∧ s'.rows.map Row.uid = ["a", "b"]
      ∧ ∀ d : Dashboard, s'.row? d.uid = none → 3 < (s'.insert d).1 := by
  have hs : Reachable (withNote "-007") := (reachable_insertAll .fresh (by decide)).note _
  have hupdate := (Serves.start (s := withNote "-007")).add (.create "a" "c" 2) (by decide)
  have hreopen := hupdate.reopen rfl
  have hrun := hreopen.add (.create "b" "b" 3) (by decide)
  obtain ⟨_, _, habove, ⟨_, horder⟩, _⟩ := Serves.numbering hs hrun
  exact ⟨hs, _, hrun, horder, fun d hd => (habove d hd).1 ⟨"b", 3⟩ (by decide)⟩

end DashIndex.Store
