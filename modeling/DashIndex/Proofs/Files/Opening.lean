import DashIndex.Proofs.Files.Settling

/-!
# Opening a store that was opened before

A settled store is found as it is: every step of the next opening finds its work done,
and the tree comes out of it as it went in, to the last entry. The same holds of the
whole way to the store, as the directory above it is there and the way to its place is
as it was. And it still holds when a run has put another store into the file. So
`Standing` is all that one opening needs, and all that it leaves for the next.
-/

namespace DashIndex.Files

variable {fs fs' : Files} {place : List String} {a : StoreAddress} {recovery : Recovery}

/-! ## Changes that change nothing -/

theorem put_first {e : Entry} {rest : List (List String × Entry)}
    (h : fs.entries = (place, e) :: rest) (hrest : ∀ x ∈ rest, x.1 ≠ place) (e' : Entry) :
    fs.put place e' = { fs with entries := (place, e') :: rest } := by
  have hfilter : rest.filter (·.1 != place) = rest :=
    List.filter_eq_self.mpr fun x hx => by simpa using hrest x hx
  rw [put, h, List.filter_cons_of_neg (by simp), hfilter]

theorem remove_absent (h : ∀ x ∈ fs.entries, x.1 ≠ place) : fs.remove place = fs := by
  have hfilter : fs.entries.filter (·.1 != place) = fs.entries :=
    List.filter_eq_self.mpr fun x hx => by simpa using h x hx
  rw [remove, hfilter]

/-! ## Opening again -/

theorem Settled.entry? {store : Store} (h : Settled fs a place store) :
    fs.entry? place = some (.database (safeguardOf a) store) := by
  obtain ⟨rest, hentries, _⟩ := h.first
  rw [entry?_of_ne_root h.root, hentries, List.find?_cons_of_pos (by exact beq_self_eq_true place)]
  rfl

theorem Settled.put {store : Store} (h : Settled fs a place store) :
    fs.put place (.database (safeguardOf a) store) = fs := by
  obtain ⟨rest, hentries, hrest⟩ := h.first
  rw [put_first hentries hrest, ← hentries]

theorem Settled.dropLog {store : Store} (h : Settled fs a place store)
    (hlogging : a.keeper = .logging) : fs.dropLog place = fs := by
  have hlog : fs.remove (logOf place) = fs :=
    remove_absent fun x hx => (h.cleared hlogging x hx).1
  have hindex : fs.remove (indexOf place) = fs :=
    remove_absent fun x hx => (h.cleared hlogging x hx).2
  rw [Files.dropLog, hlog, hindex]

theorem Settled.no_index {store : Store} (h : Settled fs a place store)
    (hlogging : a.keeper = .logging) : fs.isDirectory (indexOf place) = false := by
  have hnone : fs.entry? (indexOf place) = none := by
    rw [entry?_of_ne_root (show indexOf place ≠ [] from beside_ne_root _ _),
      Option.map_eq_none_iff, List.find?_eq_none]
    intro x hx heq
    exact (h.cleared hlogging x hx).2 (eq_of_beq heq)
  rw [isDirectory, hnone]
  rfl

theorem Settled.prepare {store : Store} (h : Settled fs a place store) :
    fs.prepare (a.keeper = .logging) place (some (safeguardOf a, store))
      = (.ok (.kept place (safeguardOf a), store), fs) := by
  have hguard : (if decide (a.keeper = .logging) = true then Safeguard.log else .journal)
      = safeguardOf a := rfl
  have hsame : (some (safeguardOf a) != some (safeguardOf a)) = false := bne_self_eq_false _
  unfold Files.prepare
  dsimp only
  rw [hguard, Option.map_some, Option.map_some, Option.getD_some, hsame, Bool.false_and,
    if_neg Bool.false_ne_true, h.put, if_neg Bool.false_ne_true,
    Store.opened_of_supported h.supported]
  by_cases hlogging : a.keeper = .logging
  · rw [decide_eq_true hlogging, h.no_index hlogging, Bool.and_false, if_neg Bool.false_ne_true,
      if_pos rfl, h.dropLog hlogging, h.put]
    rfl
  · rw [decide_eq_false hlogging, Bool.false_and, if_neg Bool.false_ne_true,
      if_neg Bool.false_ne_true, h.put]
    rfl

/-- A log that is not there, or is empty, has nothing to be written. -/
theorem replay_of_not_used (h : fs.isUsed (logOf place) = false) :
    fs.replay recovery place = fs := by
  unfold replay
  split
  · rename_i log e hlog _
    have hempty : log = [] := by simpa [isUsed, hlog] using h
    rw [hempty, show isLog [] = false from rfl, Bool.false_and, Bool.false_and,
      if_neg Bool.false_ne_true]
  · rfl

/-- **A settled store is found as it is, and its opening changes nothing.** -/
theorem Settled.openFile {store : Store} (h : Settled fs a place store) :
    fs.openFile recovery a place = (.ok (.kept place (safeguardOf a), store), fs) := by
  have hfile := h.entry?
  have hfilled : fs.isFilled place = true := by rw [isFilled, hfile]
  have hjournal : fs.settleJournal recovery false place = .ok fs := by
    unfold settleJournal
    by_cases hused : fs.isUsed (journalOf place) = true
    · obtain ⟨bytes, hzero⟩ := h.journal hused
      have hdir : fs.isDirectory (journalOf place) = false := by rw [isDirectory, hzero]; rfl
      rw [hused, hdir, hfilled, hzero]
      rfl
    · rw [Bool.eq_false_iff.mpr hused]
      rfl
  have hlog : fs.settleLog (a.keeper = .logging) place = .ok fs := by
    rw [settleLog, h.log]
    rfl
  have hcontent : fs.contentAt recovery place = .ok (some (safeguardOf a, store)) := by
    rw [contentAt, hfile]
  have hlogging : (decide (a.keeper = .logging) && !a.frozen) = decide (a.keeper = .logging) := by
    rw [h.changeable.2, Bool.not_false, Bool.and_true]
  have hkept : ¬ ((decide (some (safeguardOf a) = some Safeguard.log) && !false
      && !decide (a.keeper = .logging)) = true) := by
    rw [safeguardOf, guardFor]
    cases decide (a.keeper = .logging) <;> simp
  unfold Files.openFile
  rw [hlogging, h.changeable.2, decide_eq_false h.changeable.1]
  dsimp only
  rw [if_neg (by simp), hjournal]
  dsimp only
  rw [if_neg (by simp), hlog]
  dsimp only
  rw [if_neg Bool.false_ne_true, replay_of_not_used h.log, hcontent]
  dsimp only
  rw [Option.map_some, if_neg hkept, if_neg (by simp)]
  exact h.prepare

/-- **Another store of the supported version in the file is settled there too.** -/
theorem Settled.keep {store store' : Store} (h : Settled fs a place store)
    (hsupported : Store.assumedVersion store'.schemaVersion = Store.currentVersion) :
    Settled (fs.put place (.database (safeguardOf a) store')) a place store' := by
  obtain ⟨rest, hentries, hrest⟩ := h.first
  have hjournal : Files.entry? (fs.put place (.database (safeguardOf a) store')) (journalOf place)
      = fs.entry? (journalOf place) := entry?_put_of_ne (beside_ne_self h.root (by decide)) _
  have hlog : Files.entry? (fs.put place (.database (safeguardOf a) store')) (logOf place)
      = fs.entry? (logOf place) := entry?_put_of_ne (beside_ne_self h.root (by decide)) _
  have hput := put_first hentries hrest (.database (safeguardOf a) store')
  exact
    { root := h.root
      changeable := h.changeable
      first := ⟨rest, by rw [hput], hrest⟩
      journal := h.journal.congr hjournal
      log := (isUsed_congr hlog).trans h.log
      cleared := by
        intro hlogging x hx
        rw [hput] at hx
        rcases List.mem_cons.mp hx with rfl | hx
        · exact h.cleared hlogging (place, .database (safeguardOf a) store)
            (hentries ▸ List.mem_cons_self)
        · exact h.cleared hlogging x (hentries ▸ List.mem_cons_of_mem _ hx)
      supported := hsupported }

/-! ## The whole way to a store -/

/-- Whether a text is an address and no plain path. -/
def IsAddress (text : String) : Prop := text.toList.take 5 = ['f', 'i', 'l', 'e', ':']

theorem ofText_of_path {text : String} (h : ¬ IsAddress text) :
    StoreAddress.ofText text = .ok { path := text } := if_neg h

/-- A store is settled, and an address leads to it. -/
structure Standing (fs : Files) (address : String) (a : StoreAddress) (place : List String)
    (store : Store) : Prop where
  settled : Settled fs a place store
  spelled : StoreAddress.ofText address = .ok a
  nulFree : nulPosition? address = none
  lasting : a.isTransient = false
  leads : fs.storePlace? a.path = some place
  above : fs.isDirectory place.dropLast = true
  reaches : ∀ d, Path.parent? address = some d → fs.Reaches d

theorem isDirectory_of_grows (hg : Grows fs fs') {p : List String}
    (h : fs.isDirectory p = true) : fs'.isDirectory p = true :=
  isDirectory_iff.mpr (hg.directories p (isDirectory_iff.mp h))

theorem openPlace_ok {address : String} {kept : StorePlace} {store : Store}
    (h : fs.openPlace recovery address a place = (.ok (kept, store), fs')) :
    fs.isDirectory place.dropLast = true ∧ kept = .kept place (safeguardOf a)
      ∧ Settled fs' a place store ∧ Grows fs fs' := by
  unfold openPlace at h
  split at h
  · exact absurd (Prod.mk.inj h).1 (by simp)
  · rename_i habove
    refine ⟨by simpa using habove, ?_⟩
    split at h
    · rename_i hnone
      split at h
      · have hplace : fs.entry? place ≠ some .directory := by rw [hnone]; simp
        have hmade : Files.entry? (fs.put place (.file [])) place ≠ some .directory := by
          rw [entry?_put_self (ne_root_of_not_directory hplace)]
          simp
        obtain ⟨hkept, hsettled, hgrows⟩ := openFile_ok hmade h
        exact ⟨hkept, hsettled, (grows_put hplace _).trans hgrows⟩
      · exact absurd (Prod.mk.inj h).1 (by simp)
    · exact absurd (Prod.mk.inj h).1 (by simp)
    · rename_i e hdir hentry
      exact openFile_ok (by rw [hentry]; simpa using hdir) h

theorem makeStoreDirectory_ok {address : String}
    (h : fs.makeStoreDirectory address = (.ok (), fs')) :
    ∀ d, Path.parent? address = some d → fs'.Reaches d := by
  intro d hd
  rw [makeStoreDirectory, hd] at h
  dsimp only at h
  split at h
  · rename_i fs₁ hmade
    rw [← (Prod.mk.inj h).2]
    exact (makeDirectories_ok hmade).2
  · exact absurd (Prod.mk.inj h).1 (by simp)

/-- What an opening of a store in a file has gone through. -/
theorem openStore_ok {address : String} {place : List String} {safeguard : Safeguard}
    {store : Store} (h : fs.openStore recovery address
      = (.ok (.kept place safeguard, store), fs')) :
    ∃ a fs₁, nulPosition? address = none ∧ StoreAddress.ofText address = .ok a
      ∧ a.isTransient = false ∧ fs₁.storePlace? a.path = some place
      ∧ (∀ d, Path.parent? address = some d → fs₁.Reaches d)
      ∧ fs₁.isDirectory place.dropLast = true ∧ safeguard = safeguardOf a
      ∧ Settled fs' a place store ∧ Grows fs₁ fs' := by
  unfold openStore at h
  split at h
  · exact absurd (Prod.mk.inj h).1 (by simp)
  · rename_i fs₁ hmade
    split at h
    · exact absurd (Prod.mk.inj h).1 (by simp)
    · rename_i hnul
      split at h
      · exact absurd (Prod.mk.inj h).1 (by simp)
      · rename_i a ha
        unfold openAddress at h
        split at h
        · obtain ⟨houtcome, _⟩ := Prod.mk.inj h
          split at houtcome
          · exact absurd houtcome (by simp)
          · exact absurd houtcome (by simp)
        · rename_i hlasting
          split at h
          · exact absurd (Prod.mk.inj h).1 (by simp)
          · rename_i place' hplace
            obtain ⟨habove, hkept, hsettled, hgrows⟩ := openPlace_ok h
            obtain ⟨rfl, rfl⟩ := StorePlace.kept.inj hkept
            exact ⟨a, fs₁, hnul, ha, by simpa using hlasting, hplace, makeStoreDirectory_ok hmade,
              habove, rfl, hsettled, hgrows⟩

/--
**A store that was opened stands.** For an address the way has to be looked at again,
as the file may now lie in it; a plain path leads to the file as before.
-/
theorem standing_of_openStore {address : String} {place : List String} {safeguard : Safeguard}
    {store : Store} (h : fs.openStore recovery address = (.ok (.kept place safeguard, store), fs'))
    (hway : IsAddress address → ∀ a, StoreAddress.ofText address = .ok a →
      fs'.storePlace? a.path = some place) :
    ∃ a, safeguard = safeguardOf a ∧ Standing fs' address a place store := by
  obtain ⟨a, fs₁, hnul, ha, hlasting, hplace, hreaches, habove, hguard, hsettled, hgrows⟩ :=
    openStore_ok h
  have hleads : fs'.storePlace? a.path = some place := by
    by_cases haddress : IsAddress address
    · exact hway haddress a ha
    · rw [ofText_of_path haddress] at ha
      obtain rfl := Except.ok.inj ha
      exact storePlace?_of_grows hgrows hreaches hplace habove
  exact ⟨a, hguard, hsettled, ha, hnul, hlasting, hleads, isDirectory_of_grows hgrows habove,
    fun d hd => (hreaches d hd).of_grows hgrows⟩

/-- **Opening a standing store again gives the store and leaves the tree as it is.** -/
theorem Standing.openStore {address : String} {store : Store}
    (h : Standing fs address a place store) :
    fs.openStore recovery address = (.ok (.kept place (safeguardOf a), store), fs) := by
  have hmade : fs.makeStoreDirectory address = (.ok (), fs) := by
    rw [makeStoreDirectory]
    cases hparent : Path.parent? address with
    | none => rfl
    | some d =>
        dsimp only
        rw [makeDirectories_of_reaches (h.reaches d hparent)]
  unfold Files.openStore
  rw [hmade]
  dsimp only
  rw [h.nulFree]
  dsimp only
  rw [h.spelled]
  dsimp only
  rw [openAddress, h.lasting, if_neg Bool.false_ne_true, h.leads]
  dsimp only
  rw [openPlace, h.above, if_neg (by simp), h.settled.entry?]
  exact h.settled.openFile

/-- **Another store of the supported version in the file stands there too.** -/
theorem Standing.keep {address : String} {store store' : Store}
    (h : Standing fs address a place store)
    (hsupported : Store.assumedVersion store'.schemaVersion = Store.currentVersion) :
    Standing (fs.keep store' (.kept place (safeguardOf a))) address a place store' := by
  have hfile : fs.entry? place = some (.database (safeguardOf a) store) := h.settled.entry?
  have hgrows : Grows fs (fs.put place (.database (safeguardOf a) store')) :=
    grows_put (by rw [hfile]; simp) _
  have hsame : ∀ p, (Files.entry? (fs.put place (.database (safeguardOf a) store')) p).map
      Entry.isDirectory = (fs.entry? p).map Entry.isDirectory := by
    intro p
    by_cases hp : p = place
    · rw [hp, entry?_put_self h.settled.root, hfile]
      rfl
    · rw [entry?_put_of_ne hp]
  have hleads : (fs.put place (.database (safeguardOf a) store')).storePlace? a.path
      = some place := by
    rw [storePlace?, shorten_congr hsame]
    exact h.leads
  exact
    { settled := h.settled.keep hsupported
      spelled := h.spelled
      nulFree := h.nulFree
      lasting := h.lasting
      leads := hleads
      above := isDirectory_of_grows hgrows h.above
      reaches := fun d hd => (h.reaches d hd).of_grows hgrows }

end DashIndex.Files
