import DashIndex.Files.Tree
import DashIndex.Proofs.Files.Path

/-!
# Directories stay

A directory is only ever made where nothing lies, and nothing here takes one away. So
the trees that follow one another in a run grow in their directories, and a path that
leads to a directory keeps leading to the same one.

From this follows what the making of directories is worth later on: the directory that
was asked for is there, and asking for it again changes nothing.
-/

namespace DashIndex.Files

variable {fs fs' fs'' : Files} {place p q : List String} {path : String}

theorem entry?_root (fs : Files) : fs.entry? [] = some .directory := if_pos rfl

theorem entry?_of_ne_root (h : place ≠ []) :
    fs.entry? place = (fs.entries.find? (·.1 == place)).map (·.2) := if_neg h

theorem ne_root_of_not_directory (h : fs.entry? place ≠ some .directory) : place ≠ [] := by
  intro hroot
  rw [hroot] at h
  exact h (entry?_root fs)

theorem entry?_put_self (h : place ≠ []) (e : Entry) : Files.entry? (fs.put place e) place = some e := by
  rw [entry?_of_ne_root h, put]
  dsimp only
  rw [List.find?_cons_of_pos (by exact beq_self_eq_true place)]
  rfl

theorem find?_filter_of_ne (h : p ≠ place) :
    (fs.entries.filter (·.1 != place)).find? (·.1 == p) = fs.entries.find? (·.1 == p) := by
  rw [List.find?_filter]
  congr 1
  funext e
  by_cases he : e.1 = p
  · simp [he, h]
  · simp [he]

theorem entry?_put_of_ne (h : p ≠ place) (e : Entry) :
    Files.entry? (fs.put place e) p = fs.entry? p := by
  have hother : ¬ (place == p) = true := fun hp => h (eq_of_beq hp).symm
  by_cases hroot : p = []
  · rw [hroot, entry?_root, entry?_root]
  · rw [entry?_of_ne_root hroot, entry?_of_ne_root hroot, put]
    dsimp only
    rw [List.find?_cons_of_neg (by exact hother), find?_filter_of_ne h]

theorem entry?_remove_of_ne (h : p ≠ place) : Files.entry? (fs.remove place) p = fs.entry? p := by
  by_cases hroot : p = []
  · rw [hroot, entry?_root, entry?_root]
  · rw [entry?_of_ne_root hroot, entry?_of_ne_root hroot, remove, find?_filter_of_ne h]

theorem entry?_remove_self (h : place ≠ []) : Files.entry? (fs.remove place) place = none := by
  rw [entry?_of_ne_root h, Option.map_eq_none_iff, List.find?_eq_none]
  intro e he
  have hne := (List.mem_filter.mp he).2
  simpa using hne

/-! ## Growing -/

/-- Every directory of the first tree is one of the second. -/
structure Grows (fs fs' : Files) : Prop where
  workingDirectory : fs'.workingDirectory = fs.workingDirectory
  directories : ∀ p, fs.entry? p = some .directory → fs'.entry? p = some .directory

theorem Grows.refl (fs : Files) : Grows fs fs := ⟨rfl, fun _ h => h⟩

theorem Grows.trans (h : Grows fs fs') (h' : Grows fs' fs'') : Grows fs fs'' :=
  ⟨h'.workingDirectory.trans h.workingDirectory, fun p hp => h'.directories p (h.directories p hp)⟩

theorem grows_put (h : fs.entry? place ≠ some .directory) (e : Entry) :
    Grows fs (fs.put place e) where
  workingDirectory := rfl
  directories := by
    intro p hp
    have hne : p ≠ place := fun heq => h (heq ▸ hp)
    rw [entry?_put_of_ne hne, hp]

theorem grows_remove (h : fs.entry? place ≠ some .directory) : Grows fs (fs.remove place) where
  workingDirectory := rfl
  directories := by
    intro p hp
    have hne : p ≠ place := fun heq => h (heq ▸ hp)
    rw [entry?_remove_of_ne hne, hp]

/-! ## Following -/

/-- From a directory a segment leads on to a place, or it is too long, whatever the tree. -/
theorem follow_step (p : List String) (s : String) :
    (∃ p', ∀ (fs : Files) (rest : List String), fs.entry? p = some .directory →
        fs.follow p (s :: rest) = fs.follow p' rest)
      ∨ ∀ (fs : Files) (rest : List String), fs.entry? p = some .directory →
          fs.follow p (s :: rest) = .tooLong := by
  by_cases hidle : Path.isIdle s = true
  · left
    exact ⟨p, fun fs rest hp => by rw [follow, hp]; exact if_pos hidle⟩
  · by_cases hup : s = ".."
    · left
      refine ⟨p.dropLast, fun fs rest hp => ?_⟩
      rw [follow, hp]
      dsimp only
      rw [if_neg hidle, if_pos hup]
    · by_cases hlong : Path.maxSegment < s.utf8ByteSize
      · right
        intro fs rest hp
        rw [follow, hp]
        dsimp only
        rw [if_neg hidle, if_neg hup, if_pos hlong]
      · left
        refine ⟨p ++ [s], fun fs rest hp => ?_⟩
        rw [follow, hp]
        dsimp only
        rw [if_neg hidle, if_neg hup, if_neg hlong]

/-- What is followed to something, or to an empty place, starts in a directory. -/
theorem directory_of_follow_cons {s : String} {rest : List String}
    (h : (∃ e, fs.follow p (s :: rest) = .found q e) ∨ fs.follow p (s :: rest) = .vacant q) :
    fs.entry? p = some .directory := by
  rw [follow] at h
  split at h
  · assumption
  · rcases h with ⟨_, h⟩ | h <;> exact absurd h (by simp)
  · rcases h with ⟨_, h⟩ | h <;> exact absurd h (by simp)

theorem follow_nil_eq_directory :
    fs.follow p [] = .found q .directory ↔ p = q ∧ fs.entry? p = some .directory := by
  rw [follow]
  cases fs.entry? p with
  | none => simp
  | some e => simp

theorem directory_of_follow {segments : List String}
    (h : fs.follow p segments = .found q .directory) : fs.entry? p = some .directory := by
  cases segments with
  | nil => exact (follow_nil_eq_directory.mp h).2
  | cons s rest => exact directory_of_follow_cons (Or.inl ⟨_, h⟩)

theorem directory_at_end {segments : List String}
    (h : fs.follow p segments = .found q .directory) : fs.entry? q = some .directory := by
  induction segments generalizing p with
  | nil =>
      obtain ⟨rfl, hp⟩ := follow_nil_eq_directory.mp h
      exact hp
  | cons s rest ih =>
      have hp := directory_of_follow h
      rcases follow_step p s with ⟨p', hgo⟩ | hlong
      · rw [hgo fs rest hp] at h
        exact ih h
      · rw [hlong fs rest hp] at h
        exact absurd h (by simp)

/-- **A path that leads to a directory keeps leading to it.** -/
theorem follow_of_grows (hg : Grows fs fs') {segments : List String}
    (h : fs.follow p segments = .found q .directory) :
    fs'.follow p segments = .found q .directory := by
  induction segments generalizing p with
  | nil =>
      obtain ⟨rfl, hp⟩ := follow_nil_eq_directory.mp h
      exact follow_nil_eq_directory.mpr ⟨rfl, hg.directories p hp⟩
  | cons s rest ih =>
      have hp := directory_of_follow h
      rcases follow_step p s with ⟨p', hgo⟩ | hlong
      · rw [hgo fs rest hp] at h
        rw [hgo fs' rest (hg.directories p hp)]
        exact ih h
      · rw [hlong fs rest hp] at h
        exact absurd h (by simp)

/-- A directory that is made at the empty place of a path is what the path leads to. -/
theorem follow_put_of_vacant {segments : List String} (h : fs.follow p segments = .vacant q) :
    fs.entry? q = none ∧ (fs.put q .directory).follow p segments = .found q .directory := by
  induction segments generalizing p with
  | nil =>
      rw [follow] at h
      split at h
      · exact absurd h (by simp)
      · rename_i hp
        obtain rfl := Located.vacant.inj h
        have hroot : p ≠ [] := ne_root_of_not_directory (by rw [hp]; simp)
        exact ⟨hp, follow_nil_eq_directory.mpr ⟨rfl, entry?_put_self hroot _⟩⟩
  | cons s rest ih =>
      have hp := directory_of_follow_cons (Or.inr h)
      rcases follow_step p s with ⟨p', hgo⟩ | hlong
      · rw [hgo fs rest hp] at h
        obtain ⟨hnone, hfound⟩ := ih h
        have hp' := (grows_put (by rw [hnone]; simp) .directory).directories p hp
        exact ⟨hnone, (hgo _ rest hp').trans hfound⟩
      · rw [hlong fs rest hp] at h
        exact absurd h (by simp)

theorem startOf_of_grows (hg : Grows fs fs') (path : String) : fs'.startOf path = fs.startOf path := by
  rw [startOf, startOf, hg.workingDirectory]

theorem locate_of_grows (hg : Grows fs fs') (h : fs.locate path = .found q .directory) :
    fs'.locate path = .found q .directory := by
  rw [locate] at h ⊢
  split at h
  · exact absurd h (by simp)
  · split at h
    · exact absurd h (by simp)
    · rename_i hempty hlong
      rw [if_neg hempty, if_neg hlong, startOf_of_grows hg]
      exact follow_of_grows hg h

theorem locate_put_of_vacant (h : fs.locate path = .vacant q) :
    fs.entry? q = none ∧ (fs.put q .directory).locate path = .found q .directory := by
  rw [locate] at h ⊢
  split at h
  · exact absurd h (by simp)
  · split at h
    · exact absurd h (by simp)
    · rename_i hempty hlong
      rw [if_neg hempty, if_neg hlong]
      exact follow_put_of_vacant h

/-! ## Making directories -/

/-- A directory lies where the path leads. -/
def LeadsToDirectory (fs : Files) (path : String) : Prop :=
  ∃ place, fs.locate path = .found place .directory

theorem LeadsToDirectory.of_grows (h : fs.LeadsToDirectory path) (hg : Grows fs fs') :
    fs'.LeadsToDirectory path :=
  let ⟨place, hplace⟩ := h
  ⟨place, locate_of_grows hg hplace⟩

theorem makeDirectory_done (h : fs.makeDirectory path = .done fs') :
    Grows fs fs' ∧ fs'.LeadsToDirectory path := by
  rw [makeDirectory] at h
  split at h
  · rename_i place hplace
    obtain rfl := Made.done.inj h
    obtain ⟨hnone, hfound⟩ := locate_put_of_vacant hplace
    exact ⟨grows_put (by rw [hnone]; simp) _, place, hfound⟩
  all_goals exact absurd h (by simp)

theorem makeDirectory_taken {e : Entry} (he : e.isDirectory = true)
    (h : fs.makeDirectory path = .taken e) : fs.LeadsToDirectory path := by
  have hdir : e = .directory := by
    cases e with
    | directory => rfl
    | file _ => exact absurd he (by simp [Entry.isDirectory])
    | database _ _ => exact absurd he (by simp [Entry.isDirectory])
  rw [makeDirectory] at h
  split at h
  · exact absurd h (by simp)
  · rename_i place e' hplace
    rw [Made.taken.inj h, hdir] at hplace
    exact ⟨place, hplace⟩
  all_goals exact absurd h (by simp)

theorem makeDirectory_of_leads (h : fs.LeadsToDirectory path) :
    fs.makeDirectory path = .taken .directory := by
  obtain ⟨place, hplace⟩ := h
  rw [makeDirectory, hplace]

theorem makeEach_ok {paths : List String} (h : fs.makeEach paths = (.ok (), fs')) :
    Grows fs fs' ∧ ∀ path ∈ paths, fs'.LeadsToDirectory path := by
  induction paths generalizing fs with
  | nil =>
      rw [makeEach] at h
      obtain rfl := (Prod.mk.inj h).2
      exact ⟨Grows.refl fs, fun path hpath => absurd hpath List.not_mem_nil⟩
  | cons path rest ih =>
      -- both ways to go on have the directory in the tree from which they go on
      have hgoOn : ∀ fs₁, Grows fs fs₁ → fs₁.LeadsToDirectory path →
          fs₁.makeEach rest = (.ok (), fs') →
          Grows fs fs' ∧ ∀ p ∈ path :: rest, fs'.LeadsToDirectory p := by
        intro fs₁ hg hleads hrest
        obtain ⟨hg', hall⟩ := ih hrest
        refine ⟨hg.trans hg', fun p hp => ?_⟩
        rcases List.mem_cons.mp hp with rfl | hp
        · exact hleads.of_grows hg'
        · exact hall p hp
      rw [makeEach] at h
      split at h
      · rename_i fs₁ hmade
        obtain ⟨hg, hleads⟩ := makeDirectory_done hmade
        exact hgoOn fs₁ hg hleads h
      · rename_i e hmade
        by_cases he : e.isDirectory = true
        · rw [if_pos he] at h
          exact hgoOn fs (Grows.refl fs) (makeDirectory_taken he hmade) h
        · rw [if_neg he] at h
          exact absurd (Prod.mk.inj h).1 (by simp)
      all_goals exact absurd (Prod.mk.inj h).1 (by simp)

theorem climb_ok {waiting waiting' paths : List String}
    (h : fs.climb waiting paths = .ok (waiting', fs')) :
    Grows fs fs' ∧ (∀ path ∈ waiting, path ∈ waiting')
      ∧ ∀ path ∈ paths.head?, path ∈ waiting' ∨ fs'.LeadsToDirectory path := by
  induction paths generalizing waiting with
  | nil =>
      rw [climb] at h
      obtain ⟨rfl, rfl⟩ := Prod.mk.inj (Except.ok.inj h)
      exact ⟨Grows.refl fs, fun _ hpath => hpath, fun path hpath => absurd hpath (by simp)⟩
  | cons path above ih =>
      rw [climb] at h
      split at h
      · rename_i fs₁ hmade
        obtain ⟨rfl, rfl⟩ := Prod.mk.inj (Except.ok.inj h)
        obtain ⟨hg, hleads⟩ := makeDirectory_done hmade
        exact ⟨hg, fun _ hp => hp, fun p hp => Or.inr (Option.some.inj hp ▸ hleads)⟩
      · rename_i e hmade
        by_cases he : e.isDirectory = true
        · rw [if_pos he] at h
          obtain ⟨rfl, rfl⟩ := Prod.mk.inj (Except.ok.inj h)
          have hleads := makeDirectory_taken he hmade
          exact ⟨Grows.refl fs, fun _ hp => hp, fun p hp => Or.inr (Option.some.inj hp ▸ hleads)⟩
        · rw [if_neg he] at h
          exact absurd h (by simp)
      · obtain ⟨hg, hkept, _⟩ := ih h
        refine ⟨hg, fun p hp => hkept p (List.mem_cons_of_mem _ hp), fun p hp => Or.inl ?_⟩
        obtain rfl : path = p := Option.some.inj hp
        exact hkept path List.mem_cons_self
      all_goals exact absurd h (by simp)

/-- A directory that need not be made: there is one, or the path names none of its own. -/
structure Reaches (fs : Files) (path : String) : Prop where
  nulFree : path.toList.contains '\x00' = false
  leads : path = "" ∨ path = "/" ∨ fs.LeadsToDirectory path

theorem Reaches.of_grows (h : fs.Reaches path) (hg : Grows fs fs') : fs'.Reaches path where
  nulFree := h.nulFree
  leads := by
    rcases h.leads with hempty | hroot | hleads
    · exact Or.inl hempty
    · exact Or.inr (Or.inl hroot)
    · exact Or.inr (Or.inr (hleads.of_grows hg))

theorem ancestors_eq (hempty : path ≠ "") (hroot : path ≠ "/") :
    ∃ above, Path.ancestors path = path :: above := by
  have hkept : (path != "" && path != "/") = true := by simp [hempty, hroot]
  obtain ⟨n, hn⟩ : ∃ n, (Path.segments path).length = n + 1 :=
    Nat.exists_eq_succ_of_ne_zero fun h =>
      Path.segments_ne_nil path (List.eq_nil_of_length_eq_zero h)
  rw [Path.ancestors, hn, Path.upwards]
  split
  · exact ⟨_, List.filter_cons_of_pos (by exact hkept)⟩
  · exact ⟨_, List.filter_cons_of_pos (by exact hkept)⟩

/-- **A directory that was asked for is there.** -/
theorem makeDirectories_ok (h : fs.makeDirectories path = (.ok (), fs')) :
    Grows fs fs' ∧ fs'.Reaches path := by
  rw [makeDirectories] at h
  split at h
  · exact absurd (Prod.mk.inj h).1 (by simp)
  · rename_i hnul
    split at h
    · exact absurd (Prod.mk.inj h).1 (by simp)
    · rename_i waiting fs₁ hclimb
      obtain ⟨hg, _, hfirst⟩ := climb_ok hclimb
      obtain ⟨hg', hall⟩ := makeEach_ok h
      refine ⟨hg.trans hg', Bool.eq_false_iff.mpr hnul, ?_⟩
      by_cases hempty : path = ""
      · exact Or.inl hempty
      · by_cases hroot : path = "/"
        · exact Or.inr (Or.inl hroot)
        · obtain ⟨above, habove⟩ := ancestors_eq hempty hroot
          rw [habove] at hfirst
          rcases hfirst path rfl with hwaiting | hleads
          · exact Or.inr (Or.inr (hall path hwaiting))
          · exact Or.inr (Or.inr (hleads.of_grows hg'))

/-- **Asking for a directory that is there changes nothing.** -/
theorem makeDirectories_of_reaches (h : fs.Reaches path) :
    fs.makeDirectories path = (.ok (), fs) := by
  have hclimb : fs.climb [] (Path.ancestors path) = .ok ([], fs) := by
    by_cases hempty : path = ""
    · rw [hempty]; rfl
    · by_cases hroot : path = "/"
      · rw [hroot]; rfl
      · have hleads : fs.LeadsToDirectory path := by
          rcases h.leads with h | h | h
          · exact absurd h hempty
          · exact absurd h hroot
          · exact h
        obtain ⟨above, habove⟩ := ancestors_eq hempty hroot
        rw [habove, climb, makeDirectory_of_leads hleads]
        rfl
  rw [makeDirectories, h.nulFree, hclimb]
  rfl

end DashIndex.Files
