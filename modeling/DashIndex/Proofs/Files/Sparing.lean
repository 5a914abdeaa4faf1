import DashIndex.Proofs.Files.Opening

/-!
# What an opening leaves alone

An opening can fail at every step, and what was done before stays. Whatever it comes to,
little of it matters to anybody else. Directories are made where nothing lies, a new
store is made where there was none, and a store that is opened keeps all that it holds.
Only the three places beside the store are not safe: what lies there is taken for what
an earlier run has left, and goes, even if it is a store.

The file may also be the database of another program. What such a database holds, and
what is left of it if it does for no store, is for the engine to say; one that does is
kept like a store of the library's own.

That holds of a store that is left to itself. A journal or a log in the format of the
engine is put back into the file before anything else, and what that makes of the store
is again for the engine to say.

The steps are followed from the first on, with what is at the place of the store by then,
what has become of what lies beside it, and everything else as it was at the start. Each
step adds to that, so the outcome does not matter.
-/

namespace DashIndex

/-- What lies at a place holds this store. The database of another program may do for one. -/
inductive Holds (recovery : Recovery) : Option Entry → Store → Prop where
  | own (safeguard : Safeguard) (store : Store) :
      Holds recovery (some (.database safeguard store)) store
  | adopted {content : List UInt8} {safeguard : Safeguard} {store : Store} :
      isDatabase content = true → recovery.adopt content = .ok (some (safeguard, store)) →
      Holds recovery (some (.file content)) store

/-- What a new store may be put into. -/
inductive CountsAsEmpty (recovery : Recovery) : Option Entry → Prop where
  | nothing : CountsAsEmpty recovery none
  /-- a file of at most one byte -/
  | file {content : List UInt8} :
      content.length ≤ 1 → CountsAsEmpty recovery (some (.file content))
  /-- the database of another program in which there is nothing -/
  | adopted {content : List UInt8} :
      isDatabase content = true → recovery.adopt content = .ok none →
      CountsAsEmpty recovery (some (.file content))

/-- What may become of what lies at a place where nothing is to be lost. -/
inductive Spared (recovery : Recovery) : Option Entry → Option Entry → Prop where
  | same (e : Option Entry) : Spared recovery e e
  /-- a directory is made where nothing lies -/
  | directoryMade : Spared recovery none (some .directory)
  /-- a file without content is made where nothing lies -/
  | fileMade : Spared recovery none (some (.file []))
  /-- a new store is put where nothing lies, or into a file that counts as empty -/
  | storeMade {before : Option Entry} (safeguard : Safeguard) :
      CountsAsEmpty recovery before →
      Spared recovery before (some (.database safeguard Store.fresh))
  /-- a store is kept, perhaps with another safeguard -/
  | storeKept {before : Option Entry} {store : Store} (safeguard : Safeguard) :
      Holds recovery before store → Spared recovery before (some (.database safeguard store))
  /-- the note of a store of an earlier version is overwritten -/
  | storeRelabelled {before : Option Entry} {store : Store} (safeguard : Safeguard) :
      Holds recovery before store →
      Store.assumedVersion store.schemaVersion < Store.currentVersion →
      Spared recovery before (some (.database safeguard store.relabelled))
  /-- the database of another program does for no store, and is left as the engine leaves it -/
  | refused {content : List UInt8} {e : StoreError} :
      isDatabase content = true → recovery.adopt content = .error e →
      Spared recovery (some (.file content)) (some (.file (recovery.attempt content)))

variable {recovery : Recovery}

namespace Files

variable {fs fs' fs'' old : Files} {place : List String} {path address : String}
  {a : StoreAddress} {e : Option Entry}

/-! ## Making directories -/

/-- The second tree is the first with directories made where nothing lay. -/
def Makes (fs fs' : Files) : Prop :=
  ∀ p, fs'.entry? p = fs.entry? p ∨ (fs.entry? p = none ∧ fs'.entry? p = some .directory)

theorem Makes.refl (fs : Files) : Makes fs fs := fun _ => Or.inl rfl

theorem Makes.trans (h : Makes fs fs') (h' : Makes fs' fs'') : Makes fs fs'' := by
  intro p
  rcases h' p with hsame' | ⟨hnone', hmade'⟩
  · rw [hsame']
    exact h p
  · right
    rcases h p with hsame | ⟨_, hmade⟩
    · exact ⟨hsame.symm.trans hnone', hmade'⟩
    · rw [hmade] at hnone'
      exact absurd hnone' (by simp)

/-- The places whose names a store takes for itself. -/
def IsBeside (place p : List String) : Prop :=
  p = journalOf place ∨ p = logOf place ∨ p = indexOf place

instance (place p : List String) : Decidable (IsBeside place p) :=
  inferInstanceAs (Decidable (_ ∨ _ ∨ _))

theorem not_isBeside_self (h : place ≠ []) : ¬ IsBeside place place := by
  rintro (hself | hself | hself)
  · exact beside_ne_self h (by decide) hself.symm
  · exact beside_ne_self h (by decide) hself.symm
  · exact beside_ne_self h (by decide) hself.symm

/-- What lies beside a store stays, or it is no directory and goes, perhaps for an empty file. -/
def Tidied (before after : Option Entry) : Prop :=
  after = before ∨ (before ≠ some .directory ∧ (after = none ∨ after = some (.file [])))

theorem Tidied.step {before after after' : Option Entry} (h : Tidied before after)
    (h' : Tidied after after') : Tidied before after' := by
  rcases h with rfl | ⟨hbefore, _⟩
  · exact h'
  · right
    rcases h' with rfl | ⟨_, hafter'⟩
    · rename_i hafter
      exact ⟨hbefore, hafter⟩
    · exact ⟨hbefore, hafter'⟩

/-- What has become of a tree: this lies at a place, and changes are beside it only. -/
structure Leaves (old : Files) (place : List String) (e : Option Entry) (fs : Files) : Prop where
  root : place ≠ []
  there : fs.entry? place = e
  beside : ∀ p, IsBeside place p → Tidied (old.entry? p) (fs.entry? p)
  elsewhere : ∀ p, p ≠ place → ¬ IsBeside place p → fs.entry? p = old.entry? p

theorem Leaves.refl (fs : Files) (h : place ≠ []) : Leaves fs place (fs.entry? place) fs :=
  ⟨h, rfl, fun _ _ => Or.inl rfl, fun _ _ _ => rfl⟩

theorem Leaves.put (h : Leaves old place e fs) (x : Entry) :
    Leaves old place (some x) (fs.put place x) where
  root := h.root
  there := entry?_put_self h.root x
  beside := by
    intro p hp
    have hne : p ≠ place := fun heq => not_isBeside_self h.root (heq ▸ hp)
    rw [entry?_put_of_ne hne]
    exact h.beside p hp
  elsewhere := by
    intro p hne hp
    rw [entry?_put_of_ne hne]
    exact h.elsewhere p hne hp

/-- A step that changes what lies at one place beside the store. -/
theorem Leaves.tidy {q : List String} (h : Leaves old place e fs) (hq : IsBeside place q)
    (htidied : Tidied (fs.entry? q) (fs'.entry? q))
    (hother : ∀ p, p ≠ q → fs'.entry? p = fs.entry? p) : Leaves old place e fs' where
  root := h.root
  there := by
    rw [hother place fun heq => not_isBeside_self h.root (heq ▸ hq)]
    exact h.there
  beside := by
    intro p hp
    by_cases hpq : p = q
    · subst hpq
      exact (h.beside p hp).step htidied
    · rw [hother p hpq]
      exact h.beside p hp
  elsewhere := by
    intro p hne hp
    rw [hother p fun heq => hp (heq ▸ hq)]
    exact h.elsewhere p hne hp

theorem Leaves.clears {q : List String} (h : Leaves old place e fs) (hq : IsBeside place q)
    (hclears : Clears fs q fs') : Leaves old place e fs' := by
  refine h.tidy hq ?_ fun p hp => hclears.entry?_of_ne hp
  rcases hclears with rfl | ⟨rfl, hdir⟩
  · exact Or.inl rfl
  · refine Or.inr ⟨fun hentry => ?_, Or.inl (entry?_remove_self ?_)⟩
    · rw [isDirectory_iff.mpr hentry] at hdir
      exact absurd hdir (by simp)
    · rcases hq with rfl | rfl | rfl
      · exact journalOf_ne_root place
      · exact logOf_ne_root place
      · exact beside_ne_root place _

theorem Leaves.dropLog (h : Leaves old place e fs) (hlog : fs.isDirectory (logOf place) = false)
    (hindex : fs.isDirectory (indexOf place) = false) :
    Leaves old place e (fs.dropLog place) :=
  let ⟨hmid, hend⟩ := clears_dropLog hlog hindex
  (h.clears (Or.inr (Or.inl rfl)) hmid).clears (Or.inr (Or.inr rfl)) hend

/-! ## Stores that are left to themselves -/

/-- The engine has nothing to put back into the file of a store. -/
structure Undisturbed (fs : Files) (place : List String) : Prop where
  journal : ∀ content,
    fs.entry? (journalOf place) = some (.file content) → isJournal content = false
  log : ∀ content, fs.entry? (logOf place) = some (.file content) → isLog content = false

/-- That does not change as long as no file comes that was not there. -/
theorem Undisturbed.mono (h : Undisturbed fs place)
    (hfiles : ∀ p content, fs'.entry? p = some (.file content) →
      fs.entry? p = some (.file content)) : Undisturbed fs' place :=
  ⟨fun content hentry => h.journal content (hfiles _ _ hentry),
    fun content hentry => h.log content (hfiles _ _ hentry)⟩

theorem Undisturbed.clears {q : List String} (h : Undisturbed fs place) (hq : q ≠ [])
    (hclears : Clears fs q fs') : Undisturbed fs' place := by
  refine h.mono fun p content hentry => ?_
  rcases hclears with rfl | ⟨rfl, _⟩
  · exact hentry
  · by_cases hp : p = q
    · rw [hp, entry?_remove_self hq] at hentry
      exact absurd hentry (by simp)
    · rwa [entry?_remove_of_ne hp] at hentry

/-- What lies at the place itself does not matter. -/
theorem Undisturbed.put (h : Undisturbed fs place) (hroot : place ≠ []) (x : Entry) :
    Undisturbed (fs.put place x) place where
  journal := by
    have hjp : journalOf place ≠ place := beside_ne_self hroot (by decide)
    rw [entry?_put_of_ne hjp]
    exact h.journal
  log := by
    have hlp : logOf place ≠ place := beside_ne_self hroot (by decide)
    rw [entry?_put_of_ne hlp]
    exact h.log

theorem Undisturbed.playBack (h : Undisturbed fs place) : fs.playBack recovery place = fs := by
  unfold Files.playBack
  split
  · rename_i hjournal _
    rw [h.journal _ hjournal, if_neg Bool.false_ne_true]
  · rfl

theorem Undisturbed.replay (h : Undisturbed fs place) : fs.replay recovery place = fs := by
  unfold Files.replay
  split
  · rename_i hlog _
    rw [h.log _ hlog, Bool.false_and, Bool.false_and, if_neg Bool.false_ne_true]
  · rfl

/-! ## The steps of an opening, whatever it comes to -/

/-- Nothing at a place is lost, or it lies beside the place of a store that is opened. -/
def SparesAt (recovery : Recovery) (place? : Option (List String)) (fs fs' : Files)
    (p : List String) : Prop :=
  Spared recovery (fs.entry? p) (fs'.entry? p)
    ∨ ∃ place ∈ place?, IsBeside place p ∧ Tidied (fs.entry? p) (fs'.entry? p)

/-- Nothing is lost anywhere but beside the place of a store that is opened. -/
def Spares (recovery : Recovery) (place? : Option (List String)) (fs fs' : Files) : Prop :=
  ∀ p, SparesAt recovery place? fs fs' p

theorem Spares.refl (place? : Option (List String)) (fs : Files) : Spares recovery place? fs fs :=
  fun p => Or.inl (.same (fs.entry? p))

end Files

end DashIndex
