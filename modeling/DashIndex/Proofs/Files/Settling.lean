import DashIndex.Proofs.Files.Place
import DashIndex.Proofs.Store.Opening

/-!
# What an opening leaves

An opening that succeeds leaves the store in its file with nothing beside it that
matters: the log and its index are gone, and a journal is gone, empty or finished. It
takes several steps to get there, and each is described on its own, by what it may have
put into the file, by what it may have taken away, and by what can be said of the
journal or the log after it. `Settled` is what they come to. Nothing that a step puts
or takes away is a directory, so the directories are still there in the end.
-/

namespace DashIndex.Files

variable {fs fs' : Files} {place : List String} {a : StoreAddress} {recovery : Recovery}

/-! ## The places beside a store -/

theorem beside_ne_self (h : place ≠ []) {ending : String} (hending : ending ≠ "") :
    beside place ending ≠ place := by
  intro heq
  obtain hnil | ⟨above, name, rfl⟩ := List.eq_nil_or_concat place
  · exact h hnil
  · rw [List.concat_eq_append, beside, List.dropLast_concat, List.getLastD_concat] at heq
    have hname := congrArg String.toList (List.singleton_inj.mp (List.append_cancel_left heq))
    rw [String.toList_append] at hname
    exact hending (String.toList_eq_nil_iff.mp (List.append_right_eq_self.mp hname))

theorem beside_ne_root (place : List String) (ending : String) : beside place ending ≠ [] :=
  List.append_ne_nil_of_right_ne_nil _ (List.cons_ne_nil _ _)

theorem journalOf_ne_root (place : List String) : journalOf place ≠ [] := beside_ne_root _ _

theorem logOf_ne_root (place : List String) : logOf place ≠ [] := beside_ne_root _ _

theorem beside_ne_beside (place : List String) {ending ending' : String} (h : ending ≠ ending') :
    beside place ending ≠ beside place ending' := by
  intro heq
  have hname := List.singleton_inj.mp (List.append_cancel_left heq)
  exact h ((String.append_right_inj _).mp hname)

/-! ## What lies at a place -/

theorem isUsed_congr {p : List String} (h : fs'.entry? p = fs.entry? p) :
    fs'.isUsed p = fs.isUsed p := by
  rw [isUsed, isUsed, h]

theorem isFilled_congr {p : List String} (h : fs'.entry? p = fs.entry? p) :
    fs'.isFilled p = fs.isFilled p := by
  rw [isFilled, isFilled, h]

theorem isDirectory_congr {p : List String} (h : fs'.entry? p = fs.entry? p) :
    fs'.isDirectory p = fs.isDirectory p := by
  rw [isDirectory, isDirectory, h]

theorem isUsed_of_isDirectory {p : List String} (h : fs.isDirectory p = true) :
    fs.isUsed p = true := by
  rw [isUsed, isDirectory_iff.mp h]

theorem isUsed_remove {p : List String} (h : p ≠ []) : (fs.remove p).isUsed p = false := by
  rw [isUsed, entry?_remove_self h]

/-- Nothing was changed, or what is no directory was taken away at a place. -/
def Clears (fs : Files) (p : List String) (fs' : Files) : Prop :=
  fs' = fs ∨ (fs' = fs.remove p ∧ fs.isDirectory p = false)

theorem Clears.grows {p : List String} (h : Clears fs p fs') : Grows fs fs' := by
  rcases h with rfl | ⟨rfl, hdir⟩
  · exact Grows.refl _
  · refine grows_remove fun hentry => ?_
    rw [isDirectory_iff.mpr hentry] at hdir
    exact absurd hdir (by simp)

theorem Clears.entry?_of_ne {p q : List String} (h : Clears fs p fs') (hq : q ≠ p) :
    fs'.entry? q = fs.entry? q := by
  rcases h with rfl | ⟨rfl, _⟩
  · rfl
  · exact entry?_remove_of_ne hq

/-- Nothing was changed, or what is no directory was put where no directory is. -/
def Rewrites (fs : Files) (p : List String) (fs' : Files) : Prop :=
  fs' = fs ∨ ∃ e, fs' = fs.put p e ∧ fs.entry? p ≠ some .directory ∧ e ≠ .directory

theorem Rewrites.grows {p : List String} (h : Rewrites fs p fs') : Grows fs fs' := by
  rcases h with rfl | ⟨e, rfl, hplace, _⟩
  · exact Grows.refl _
  · exact grows_put hplace e

theorem Rewrites.entry?_of_ne {p q : List String} (h : Rewrites fs p fs') (hq : q ≠ p) :
    fs'.entry? q = fs.entry? q := by
  rcases h with rfl | ⟨e, rfl, _⟩
  · rfl
  · exact entry?_put_of_ne hq e

theorem Rewrites.ne_directory {p : List String} (h : Rewrites fs p fs')
    (hp : fs.entry? p ≠ some .directory) : fs'.entry? p ≠ some .directory := by
  rcases h with rfl | ⟨e, rfl, _, he⟩
  · exact hp
  · rw [entry?_put_self (ne_root_of_not_directory hp)]
    exact fun heq => he (Option.some.inj heq)

theorem rewrites_playBack (recovery : Recovery) (hplace : fs.entry? place ≠ some .directory) :
    Rewrites fs place (fs.playBack recovery place) := by
  unfold playBack
  split
  · rename_i e _ hentry
    split
    · refine Or.inr ⟨_, rfl, hplace, recovery.playBack_ne_directory _ e fun he => hplace ?_⟩
      rw [hentry, he]
    · exact Or.inl rfl
  · exact Or.inl rfl

theorem rewrites_replay (recovery : Recovery) (hplace : fs.entry? place ≠ some .directory) :
    Rewrites fs place (fs.replay recovery place) := by
  unfold replay
  split
  · rename_i e _ hentry
    split
    · refine Or.inr ⟨_, rfl, hplace, recovery.replay_ne_directory _ e fun he => hplace ?_⟩
      rw [hentry, he]
    · exact Or.inl rfl
  · exact Or.inl rfl

/-- Nothing is written into a file that is empty. -/
theorem replay_of_not_filled (h : fs.isFilled place = false) :
    fs.replay recovery place = fs := by
  unfold replay
  split
  · rw [h, Bool.and_false, Bool.false_and, if_neg Bool.false_ne_true]
  · rfl

/-! ## What an opening leaves -/

/-- The safeguard of a keeper that logs, or of one that does not. -/
def guardFor (logging : Bool) : Safeguard := if logging then .log else .journal

/-- How the store at an address is safeguarded. -/
def safeguardOf (a : StoreAddress) : Safeguard := guardFor (a.keeper = .logging)

/-- A journal that does not matter: it is not used, or it starts as a finished one does. -/
def JournalSettled (fs : Files) (place : List String) : Prop :=
  fs.isUsed (journalOf place) = true →
    ∃ content, fs.entry? (journalOf place) = some (.file (0 :: content))

theorem JournalSettled.congr (h : JournalSettled fs place)
    (hentry : fs'.entry? (journalOf place) = fs.entry? (journalOf place)) :
    JournalSettled fs' place := by
  intro hused
  obtain ⟨content, hcontent⟩ := h ((isUsed_congr hentry).symm.trans hused)
  exact ⟨content, hentry.trans hcontent⟩

/-- The store lies in its file, and nothing that lies beside it matters. -/
structure Settled (fs : Files) (a : StoreAddress) (place : List String) (store : Store) :
    Prop where
  root : place ≠ []
  changeable : a.access ≠ .read ∧ a.frozen = false
  /-- the file of the store is the first entry, and the only one at its place -/
  first : ∃ rest, fs.entries = (place, .database (safeguardOf a) store) :: rest
    ∧ ∀ x ∈ rest, x.1 ≠ place
  journal : JournalSettled fs place
  log : fs.isUsed (logOf place) = false
  /-- a keeper that logs has taken the log and its index away -/
  cleared : a.keeper = .logging → ∀ x ∈ fs.entries, x.1 ≠ logOf place ∧ x.1 ≠ indexOf place
  supported : Store.assumedVersion store.schemaVersion = Store.currentVersion

/-! ## The steps of an opening that succeeds -/

/-- A journal that was dealt with: it does not matter, or is a directory beside an empty file. -/
def JournalTaken (fs : Files) (place : List String) : Prop :=
  fs.isUsed (journalOf place) = true →
    (fs.isDirectory (journalOf place) = true ∧ fs.isFilled place = false)
      ∨ ∃ content, fs.entry? (journalOf place) = some (.file (0 :: content))

theorem JournalTaken.congr (h : JournalTaken fs place)
    (hentry : fs'.entry? (journalOf place) = fs.entry? (journalOf place))
    (hfile : fs'.entry? place = fs.entry? place) : JournalTaken fs' place := by
  intro hused
  rw [isDirectory_congr hentry, isFilled_congr hfile, hentry]
  exact h ((isUsed_congr hentry).symm.trans hused)

/-- A log has no say where the file is empty, and none in the journal. -/
theorem JournalTaken.replay (h : JournalTaken fs place) (hroot : place ≠ []) :
    JournalTaken (fs.replay recovery place) place := by
  by_cases hfilled : fs.isFilled place = true
  · have hplace : fs.entry? place ≠ some .directory := by
      intro hdir
      rw [isFilled, hdir] at hfilled
      exact absurd hfilled (by simp)
    have hentry : Files.entry? (fs.replay recovery place) (journalOf place)
        = fs.entry? (journalOf place) :=
      (rewrites_replay recovery hplace).entry?_of_ne (beside_ne_self hroot (by decide))
    intro hused
    rw [hentry]
    rcases h ((isUsed_congr hentry).symm.trans hused) with ⟨_, hempty⟩ | hfinished
    · exact absurd (hfilled.symm.trans hempty) (by simp)
    · exact Or.inr hfinished
  · rw [replay_of_not_filled (by simpa using hfilled)]
    exact h

/-- A journal that was settled has put back what it keeps, and it does not matter any more. -/
theorem settleJournal_ok (hplace : fs.entry? place ≠ some .directory)
    (h : fs.settleJournal recovery false place = .ok fs') :
    (∃ mid, Rewrites fs place mid ∧ Clears mid (journalOf place) fs') ∧ JournalTaken fs' place := by
  have hgone : ∀ mid : Files, (mid.remove (journalOf place)).isUsed (journalOf place) ≠ true := by
    intro mid
    rw [isUsed_remove (journalOf_ne_root place)]
    simp
  have hkept : ∃ mid, Rewrites fs place mid ∧ Clears mid (journalOf place) fs :=
    ⟨fs, Or.inl rfl, Or.inl rfl⟩
  unfold settleJournal at h
  split at h
  · rename_i hunused
    obtain rfl := Except.ok.inj h
    exact ⟨hkept, fun hused => absurd hused (by simpa using hunused)⟩
  · split at h
    · rename_i hdir
      split at h
      · exact absurd h (by simp)
      · rename_i hfilled
        obtain rfl := Except.ok.inj h
        exact ⟨hkept, fun _ => Or.inl ⟨hdir, by simpa using hfilled⟩⟩
    · rename_i hdir
      split at h
      · obtain rfl := Except.ok.inj h
        exact ⟨⟨fs, Or.inl rfl, Or.inr ⟨rfl, by simpa using hdir⟩⟩,
          fun hused => absurd hused (hgone fs)⟩
      · split at h
        · rename_i content hzero
          obtain rfl := Except.ok.inj h
          exact ⟨hkept, fun _ => Or.inr ⟨content, hzero⟩⟩
        · obtain rfl := Except.ok.inj h
          have hback := rewrites_playBack recovery hplace
          refine ⟨⟨_, hback, Or.inr ⟨rfl, ?_⟩⟩, fun hused => absurd hused (hgone _)⟩
          have hjp : journalOf place ≠ place :=
            beside_ne_self (ne_root_of_not_directory hplace) (by decide)
          rw [isDirectory_congr (hback.entry?_of_ne hjp)]
          simpa using hdir

theorem settleLog_ok {logging : Bool} (h : fs.settleLog logging place = .ok fs') :
    Clears fs (logOf place) fs'
      ∧ (fs'.isUsed (logOf place) = true →
          logging = true ∧ fs'.isDirectory (logOf place) = false) := by
  unfold settleLog at h
  split at h
  · rename_i hunused
    obtain rfl := Except.ok.inj h
    exact ⟨Or.inl rfl, fun hused => absurd hused (by simpa using hunused)⟩
  · split at h
    · split at h
      · exact absurd h (by simp)
      · rename_i hlog
        obtain rfl := Except.ok.inj h
        exact ⟨Or.inl rfl, fun _ => by simpa [and_comm] using hlog⟩
    · split at h
      · exact absurd h (by simp)
      · rename_i hdir
        obtain rfl := Except.ok.inj h
        refine ⟨Or.inr ⟨rfl, by simpa using hdir⟩, fun hused => ?_⟩
        rw [isUsed_remove (logOf_ne_root place)] at hused
        exact absurd hused (by simp)

/-- The file is written, and the journal goes if that is more than the same safeguard again. -/
def WritesFile (fs : Files) (place : List String) (safeguard : Safeguard)
    (content : Option (Safeguard × Store)) (before : Store) (fs' : Files) : Prop :=
  (content.map (·.1) = some safeguard ∧ fs' = fs.put place (.database safeguard before))
    ∨ content.map (·.1) ≠ some safeguard ∧ fs.isDirectory (journalOf place) = false
      ∧ fs' = (fs.put place (.database safeguard before)).remove (journalOf place)

/-- A keeper that logs takes the log and its index away. -/
def DropsLog (fs : Files) (place : List String) (logging : Bool) (fs' : Files) : Prop :=
  (logging = false ∧ fs' = fs)
    ∨ logging = true ∧ fs.isDirectory (indexOf place) = false ∧ fs' = fs.dropLog place

/--
**What a preparation does.** It stops before the file is written, or it stops since the index
is a directory, with the log made, or it opens the store and writes that down too.
-/
theorem prepare_cases (fs : Files) (logging : Bool) (place : List String)
    {content : Option (Safeguard × Store)} {store : Store}
    (hstore : (content.map (·.2)).getD Store.fresh = store) :
    (∃ e, fs.prepare logging place content = (.error e, fs))
      ∨ ∃ fs₁, WritesFile fs place (guardFor logging) content store fs₁
        ∧ ((∃ e left, fs.prepare logging place content = (.error e, left)
            ∧ (left = fs₁ ∨ (fs₁.isUsed (logOf place) = false
              ∧ left = fs₁.put (logOf place) (.file []))))
          ∨ ∃ fs₂, DropsLog fs₁ place logging fs₂
            ∧ fs.prepare logging place content
              = (store.opened.1.map fun () => (.kept place (guardFor logging), store.opened.2),
                fs₂.put place (.database (guardFor logging) store.opened.2))) := by
  unfold prepare
  dsimp only
  rw [show (if logging = true then Safeguard.log else .journal) = guardFor logging from rfl, hstore]
  split
  · exact Or.inl ⟨_, rfl⟩
  · rename_i hjournal
    right
    obtain ⟨fs₁, hfs₁⟩ : ∃ fs₁, fs₁ = if (content.map (·.1) != some (guardFor logging)) = true then
        (fs.put place (.database (guardFor logging) store)).remove (journalOf place)
      else fs.put place (.database (guardFor logging) store) := ⟨_, rfl⟩
    rw [← hfs₁]
    refine ⟨fs₁, ?_, ?_⟩
    · by_cases hsame : content.map (·.1) = some (guardFor logging)
      · rw [if_neg (by simpa using hsame)] at hfs₁
        exact Or.inl ⟨hsame, hfs₁⟩
      · rw [if_pos (by simpa using hsame)] at hfs₁
        have hcan : fs.canKeepJournal place = true := by simpa [hsame] using hjournal
        rw [canKeepJournal, Bool.and_eq_true] at hcan
        exact Or.inr ⟨hsame, by simpa using hcan.2, hfs₁⟩
    · split
      · left
        refine ⟨_, _, rfl, ?_⟩
        split
        · exact Or.inl rfl
        · rename_i hused
          exact Or.inr ⟨by simpa using hused, rfl⟩
      · rename_i hindex
        right
        refine ⟨_, ?_, rfl⟩
        cases logging with
        | false => exact Or.inl ⟨rfl, rfl⟩
        | true => exact Or.inr ⟨rfl, by simpa using hindex, rfl⟩

/-- What a preparation that succeeds has done. -/
theorem prepare_ok {logging : Bool} {content : Option (Safeguard × Store)} {kept : StorePlace}
    {store : Store} (h : fs.prepare logging place content = (.ok (kept, store), fs')) :
    ∃ before fs₁ fs₂, kept = .kept place (guardFor logging)
      ∧ WritesFile fs place (guardFor logging) content before fs₁
      ∧ DropsLog fs₁ place logging fs₂ ∧ before.opened = (.ok (), store)
      ∧ fs' = fs₂.put place (.database (guardFor logging) store) := by
  rcases prepare_cases fs logging place rfl with
    ⟨_, hrefused⟩ | ⟨fs₁, hwrites, ⟨_, _, hrefused, _⟩ | ⟨fs₂, hdrops, hopens⟩⟩
  · rw [hrefused] at h
    exact absurd (Prod.mk.inj h).1 (by simp)
  · rw [hrefused] at h
    exact absurd (Prod.mk.inj h).1 (by simp)
  · rw [hopens] at h
    obtain ⟨houtcome, hfiles⟩ := Prod.mk.inj h
    generalize (content.map (·.2)).getD Store.fresh = before at *
    cases ho : before.opened with
    | mk outcome store' =>
        rw [ho] at houtcome hfiles
        cases outcome with
        | error e => exact absurd houtcome (by simp [Except.map])
        | ok =>
            obtain ⟨hkept, rfl⟩ := Prod.mk.inj (Except.ok.inj houtcome)
            exact ⟨before, fs₁, fs₂, hkept.symm, hwrites, hdrops, ho, hfiles.symm⟩

/-- After the file is written, the journal does not matter. -/
theorem WritesFile.journal {content : Option (Safeguard × Store)} {safeguard : Safeguard}
    {before : Store} (h : WritesFile fs place safeguard content before fs') (hroot : place ≠ [])
    (hfilled : content.map (·.1) ≠ none → fs.isFilled place = true)
    (hjournal : JournalTaken fs place) :
    Clears (fs.put place (.database safeguard before)) (journalOf place) fs'
      ∧ JournalSettled fs' place := by
  have hput : Files.entry? (fs.put place (.database safeguard before)) (journalOf place)
      = fs.entry? (journalOf place) := entry?_put_of_ne (beside_ne_self hroot (by decide)) _
  rcases h with ⟨hsame, rfl⟩ | ⟨_, hdir, rfl⟩
  · refine ⟨Or.inl rfl, fun hused => ?_⟩
    rw [isUsed_congr hput] at hused
    rcases hjournal hused with ⟨_, hempty⟩ | ⟨bytes, hzero⟩
    · rw [hfilled (by rw [hsame]; simp)] at hempty
      exact absurd hempty (by simp)
    · exact ⟨bytes, hput.trans hzero⟩
  · refine ⟨Or.inr ⟨rfl, (isDirectory_congr hput).trans hdir⟩, fun hused => ?_⟩
    rw [isUsed_remove (journalOf_ne_root place)] at hused
    exact absurd hused (by simp)

theorem clears_dropLog (hlog : fs.isDirectory (logOf place) = false)
    (hindex : fs.isDirectory (indexOf place) = false) :
    Clears fs (logOf place) (fs.remove (logOf place))
      ∧ Clears (fs.remove (logOf place)) (indexOf place) (fs.dropLog place) := by
  have hil : indexOf place ≠ logOf place := beside_ne_beside place (by decide)
  exact ⟨Or.inr ⟨rfl, hlog⟩,
    Or.inr ⟨rfl, (isDirectory_congr (entry?_remove_of_ne hil)).trans hindex⟩⟩

/-- After the log is dropped, or is found not to be used, it does not matter. -/
theorem DropsLog.log {logging : Bool} (h : DropsLog fs place logging fs')
    (hlog : fs.isUsed (logOf place) = true →
      logging = true ∧ fs.isDirectory (logOf place) = false) :
    (∃ mid, Clears fs (logOf place) mid ∧ Clears mid (indexOf place) fs')
      ∧ fs'.isUsed (logOf place) = false
      ∧ (logging = true → ∀ x ∈ fs'.entries, x.1 ≠ logOf place ∧ x.1 ≠ indexOf place) := by
  have hil : indexOf place ≠ logOf place := beside_ne_beside place (by decide)
  rcases h with ⟨rfl, rfl⟩ | ⟨rfl, hindex, rfl⟩
  · refine ⟨⟨fs', Or.inl rfl, Or.inl rfl⟩, ?_, fun hlogging => absurd hlogging (by simp)⟩
    exact Bool.eq_false_iff.mpr fun hused => absurd (hlog hused).1 (by simp)
  · have hfile : fs.isDirectory (logOf place) = false := by
      cases hdir : fs.isDirectory (logOf place) with
      | false => rfl
      | true => exact absurd (hlog (isUsed_of_isDirectory hdir)).2 (by rw [hdir]; simp)
    obtain ⟨hmid, hend⟩ := clears_dropLog hfile hindex
    refine ⟨⟨_, hmid, hend⟩, ?_, fun _ x hx => ?_⟩
    · rw [isUsed_congr (hend.entry?_of_ne hil.symm), isUsed_remove (logOf_ne_root place)]
    · obtain ⟨hx, hxi⟩ := List.mem_filter.mp hx
      exact ⟨by simpa using (List.mem_filter.mp hx).2, by simpa using hxi⟩

/-- **A preparation leaves the store settled.** -/
theorem settled_of_prepare {content : Option (Safeguard × Store)} {kept : StorePlace}
    {store : Store} (ha : a.access ≠ .read ∧ a.frozen = false)
    (hplace : fs.entry? place ≠ some .directory)
    (hfilled : content.map (·.1) ≠ none → fs.isFilled place = true)
    (hjournal : JournalTaken fs place)
    (hlog : fs.isUsed (logOf place) = true →
      decide (a.keeper = .logging) = true ∧ fs.isDirectory (logOf place) = false)
    (h : fs.prepare (a.keeper = .logging) place content = (.ok (kept, store), fs')) :
    kept = .kept place (safeguardOf a) ∧ Settled fs' a place store ∧ Grows fs fs' := by
  obtain ⟨before, fs₁, fs₂, hkept, hfirst, hsecond, hopened, hfiles⟩ := prepare_ok h
  have hguard : guardFor (a.keeper = .logging) = safeguardOf a := rfl
  rw [hguard] at hkept hfirst hfiles
  subst hfiles
  have hroot := ne_root_of_not_directory hplace
  have hjp : journalOf place ≠ place := beside_ne_self hroot (by decide)
  have hlp : logOf place ≠ place := beside_ne_self hroot (by decide)
  have hip : indexOf place ≠ place := beside_ne_self hroot (by decide)
  have hjl : journalOf place ≠ logOf place := beside_ne_beside place (by decide)
  have hji : journalOf place ≠ indexOf place := beside_ne_beside place (by decide)
  obtain ⟨hclears, hfinished⟩ := hfirst.journal hroot hfilled hjournal
  have hlogEntry : fs₁.entry? (logOf place) = fs.entry? (logOf place) :=
    (hclears.entry?_of_ne hjl.symm).trans (entry?_put_of_ne hlp _)
  obtain ⟨⟨mid, hmid, hend⟩, hunused, hcleared⟩ := hsecond.log (by
    rw [isUsed_congr hlogEntry, isDirectory_congr hlogEntry]
    exact hlog)
  have hplace₂ : fs₂.entry? place = some (.database (safeguardOf a) before) := by
    rw [hend.entry?_of_ne hip.symm, hmid.entry?_of_ne hlp.symm, hclears.entry?_of_ne hjp.symm]
    exact entry?_put_self hroot _
  have hjournal₂ : Files.entry? (fs₂.put place (.database (safeguardOf a) store)) (journalOf place)
      = fs₁.entry? (journalOf place) := by
    rw [entry?_put_of_ne hjp, hend.entry?_of_ne hji, hmid.entry?_of_ne hjl]
  refine ⟨hkept, ?_, ?_⟩
  · exact
      { root := hroot
        changeable := ha
        first := ⟨_, rfl, fun x hx => by simpa using (List.mem_filter.mp hx).2⟩
        journal := hfinished.congr hjournal₂
        log := (isUsed_congr (entry?_put_of_ne hlp _)).trans hunused
        cleared := by
          intro hlogging x hx
          rcases List.mem_cons.mp hx with rfl | hx
          · exact ⟨hlp.symm, hip.symm⟩
          · exact hcleared (decide_eq_true hlogging) x (List.mem_filter.mp hx).1
        supported := Store.assumedVersion_of_opened hopened }
  · exact (grows_put hplace _).trans (hclears.grows.trans (hmid.grows.trans (hend.grows.trans
      (grows_put (by rw [hplace₂]; simp) _))))

theorem contentAt_ok {content : Option (Safeguard × Store)}
    (h : fs.contentAt recovery place = .ok content) :
    (content.map (·.1) ≠ none → fs.isFilled place = true) := by
  intro hsome
  unfold contentAt at h
  split at h
  · rename_i safeguard store hentry
    rw [isFilled, hentry]
  · split at h
    · rw [← Except.ok.inj h] at hsome
      exact absurd rfl hsome
    · rename_i hfilled
      simpa using hfilled
  · rw [← Except.ok.inj h] at hsome
    exact absurd rfl hsome

/-- The steps of an opening, one after the other. -/
theorem settled_of_steps {fs₁ fs₂ : Files} {content : Option (Safeguard × Store)}
    {kept : StorePlace} {store : Store} (ha : a.access ≠ .read ∧ a.frozen = false)
    (hplace : fs.entry? place ≠ some .directory)
    (hjournal : fs.settleJournal recovery false place = .ok fs₁)
    (hlog : fs₁.settleLog (a.keeper = .logging) place = .ok fs₂)
    (hcontent : (fs₂.replay recovery place).contentAt recovery place = .ok content)
    (h : (fs₂.replay recovery place).prepare (a.keeper = .logging) place content
      = (.ok (kept, store), fs')) :
    kept = .kept place (safeguardOf a) ∧ Settled fs' a place store ∧ Grows fs fs' := by
  obtain ⟨⟨mid, hback, hclears₁⟩, hj⟩ := settleJournal_ok hplace hjournal
  obtain ⟨hclears₂, hl⟩ := settleLog_ok hlog
  have hroot := ne_root_of_not_directory hplace
  have hjp : journalOf place ≠ place := beside_ne_self hroot (by decide)
  have hlp : logOf place ≠ place := beside_ne_self hroot (by decide)
  have hjl : journalOf place ≠ logOf place := beside_ne_beside place (by decide)
  have hfile : fs₂.entry? place = fs₁.entry? place := hclears₂.entry?_of_ne hlp.symm
  have hplace₂ : fs₂.entry? place ≠ some .directory := by
    rw [hfile, hclears₁.entry?_of_ne hjp.symm]
    exact hback.ne_directory hplace
  have hreplay := rewrites_replay recovery hplace₂
  have hlogEntry := hreplay.entry?_of_ne hlp
  obtain ⟨hkept, hsettled, hgrows⟩ :=
    settled_of_prepare ha (hreplay.ne_directory hplace₂) (contentAt_ok hcontent)
      ((hj.congr (hclears₂.entry?_of_ne hjl) hfile).replay hroot)
      (by rw [isUsed_congr hlogEntry, isDirectory_congr hlogEntry]; exact hl) h
  exact ⟨hkept, hsettled, hback.grows.trans (hclears₁.grows.trans (hclears₂.grows.trans
    (hreplay.grows.trans hgrows)))⟩

/-- **An opening that succeeds leaves the store settled.** -/
theorem openFile_ok {kept : StorePlace} {store : Store}
    (hplace : fs.entry? place ≠ some .directory)
    (h : fs.openFile recovery a place = (.ok (kept, store), fs')) :
    kept = .kept place (safeguardOf a) ∧ Settled fs' a place store ∧ Grows fs fs' := by
  unfold openFile at h
  dsimp only at h
  split at h
  · exact absurd (Prod.mk.inj h).1 (by simp)
  · rename_i fs₁ hjournal
    split at h
    · exact absurd (Prod.mk.inj h).1 (by simp)
    · rename_i fs₂ hlog
      split at h
      · exact absurd (Prod.mk.inj h).1 (by simp)
      · rename_i content hcontent
        split at h
        · exact absurd (Prod.mk.inj h).1 (by simp)
        · split at h
          · exact absurd (Prod.mk.inj h).1 (by simp)
          · rename_i hreadOnly
            have ha : a.access ≠ .read ∧ a.frozen = false := by simpa using hreadOnly
            have hlogging : (decide (a.keeper = .logging) && !a.frozen)
                = decide (a.keeper = .logging) := by
              rw [ha.2, Bool.not_false, Bool.and_true]
            rw [ha.2, if_neg (by simp), decide_eq_false ha.1] at hjournal
            rw [hlogging, ha.2, if_neg (by simp)] at hlog
            rw [ha.2, if_neg Bool.false_ne_true] at hcontent h
            rw [Bool.not_false, Bool.and_true] at h
            exact settled_of_steps ha hplace hjournal hlog hcontent h

end DashIndex.Files
