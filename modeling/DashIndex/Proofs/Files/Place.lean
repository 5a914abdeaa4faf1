import DashIndex.Files.Opening
import DashIndex.Proofs.Files.Tree

/-!
# The place of a store stays

The way to a store is not followed as the way to a directory is: it may lead over
places where nothing lies yet, and then it ends at its first file. So a store that is made may
lie in its own way. That cannot happen to a plain path whose directory was made
before: then the way leads over directories, up to its last segment, and directories
stay.
-/

namespace DashIndex.Files

variable {fs fs' : Files} {p q place : List String} {path : String}

/-! ## Segments that name nothing -/

theorem shorten_named (fs : Files) (p : List String) (ss : List String) :
    fs.shorten p (Path.named ss) = fs.shorten p ss := by
  induction ss generalizing p with
  | nil => rfl
  | cons s ss ih =>
      by_cases hidle : Path.isIdle s = true
      · have hdrop : Path.named (s :: ss) = Path.named ss :=
          List.filter_cons_of_neg (by simp [hidle])
        rw [hdrop, ih, shorten, if_pos hidle]
      · have hkeep : Path.named (s :: ss) = s :: Path.named ss :=
          List.filter_cons_of_pos (by simp [hidle])
        rw [hkeep]
        simp only [shorten, ih]

theorem follow_named {ss : List String} (h : fs.follow p ss = .found q .directory) :
    fs.follow p (Path.named ss) = .found q .directory := by
  induction ss generalizing p with
  | nil => exact h
  | cons s ss ih =>
      have hp := directory_of_follow h
      by_cases hidle : Path.isIdle s = true
      · have hdrop : Path.named (s :: ss) = Path.named ss :=
          List.filter_cons_of_neg (by simp [hidle])
        rw [hdrop]
        refine ih ?_
        rw [follow, hp] at h
        dsimp only at h
        rw [if_pos hidle] at h
        exact h
      · have hkeep : Path.named (s :: ss) = s :: Path.named ss :=
          List.filter_cons_of_pos (by simp [hidle])
        rw [hkeep]
        rcases follow_step p s with ⟨p', hgo⟩ | hlong
        · rw [hgo fs _ hp] at h ⊢
          exact ih h
        · rw [hlong fs _ hp] at h
          exact absurd h (by simp)

/-- A way tells directories, other things and empty places apart, and no more. -/
theorem shorten_congr
    (h : ∀ p, (fs'.entry? p).map Entry.isDirectory = (fs.entry? p).map Entry.isDirectory)
    (p ss : List String) : fs'.shorten p ss = fs.shorten p ss := by
  induction ss generalizing p with
  | nil => rfl
  | cons s ss ih =>
      have hp := h p
      simp only [shorten, ih]
      cases hentry : fs.entry? p with
      | none =>
          rw [hentry, Option.map_none, Option.map_eq_none_iff] at hp
          rw [hp]
      | some e =>
          rw [hentry, Option.map_some, Option.map_eq_some_iff] at hp
          obtain ⟨e', hentry', hsame⟩ := hp
          rw [hentry']
          cases e <;> cases e' <;> first | rfl | exact absurd hsame (by simp [Entry.isDirectory])

/-! ## The way over directories -/

/-- From a directory a segment of a way leads where it leads a path, or nowhere in any tree. -/
theorem shorten_step (p : List String) (s : String) :
    (∃ p', ∀ (fs : Files) (rest : List String), fs.entry? p = some .directory →
        fs.shorten p (s :: rest) = fs.shorten p' rest
          ∧ fs.follow p (s :: rest) = fs.follow p' rest)
      ∨ ∀ (fs : Files) (rest : List String), fs.entry? p = some .directory →
          fs.shorten p (s :: rest) = none := by
  by_cases hidle : Path.isIdle s = true
  · left
    refine ⟨p, fun fs rest hp => ?_⟩
    rw [shorten, follow, hp]
    exact ⟨if_pos hidle, if_pos hidle⟩
  · by_cases hup : s = ".."
    · left
      refine ⟨p.dropLast, fun fs rest hp => ?_⟩
      rw [shorten, follow, hp]
      dsimp only
      rw [if_neg hidle, if_neg hidle, if_pos hup, if_pos hup]
      exact ⟨rfl, rfl⟩
    · by_cases hfar : maxPassed < placeSize (p ++ [s])
      · right
        intro fs rest hp
        rw [shorten, if_neg hidle, if_neg hup, if_pos hfar]
      · by_cases hlong : Path.maxSegment < s.utf8ByteSize
        · right
          intro fs rest hp
          rw [shorten, if_neg hidle, if_neg hup, if_neg hfar, hp]
          exact if_pos hlong
        · left
          refine ⟨p ++ [s], fun fs rest hp => ?_⟩
          rw [shorten, follow, hp]
          dsimp only
          rw [if_neg hidle, if_neg hidle, if_neg hup, if_neg hup, if_neg hfar, if_neg hlong,
            if_neg hlong]
          exact ⟨rfl, rfl⟩

/-- A way that starts over directories goes on as it does from the last of them. -/
theorem shorten_of_follow (hg : Grows fs fs') {ss rest : List String}
    (h : fs.follow p ss = .found q .directory) (hrest : fs'.shorten q rest = fs.shorten q rest) :
    fs'.shorten p (ss ++ rest) = fs.shorten p (ss ++ rest) := by
  induction ss generalizing p with
  | nil =>
      obtain ⟨rfl, _⟩ := follow_nil_eq_directory.mp h
      exact hrest
  | cons s ss ih =>
      have hp := directory_of_follow h
      have hp' := hg.directories p hp
      rw [List.cons_append]
      rcases shorten_step p s with ⟨p', hgo⟩ | hnone
      · rw [(hgo fs ss hp).2] at h
        rw [(hgo fs _ hp).1, (hgo fs' _ hp').1]
        exact ih h
      · rw [hnone fs _ hp, hnone fs' _ hp']

theorem shorten_one_of_directory (hg : Grows fs fs') (hp : fs.entry? p = some .directory)
    (s : String) : fs'.shorten p [s] = fs.shorten p [s] := by
  have hp' := hg.directories p hp
  rcases shorten_step p s with ⟨p', hgo⟩ | hnone
  · rw [(hgo fs _ hp).1, (hgo fs' _ hp').1]
    rfl
  · rw [hnone fs _ hp, hnone fs' _ hp']

/-- The last segment of a way to a place below a directory leads to it again. -/
theorem shorten_last (hg : Grows fs fs') {s : String} (h : fs.shorten p [s] = some place)
    (habove : fs.entry? place.dropLast = some .directory) :
    fs'.shorten p [s] = fs.shorten p [s] := by
  by_cases hp : fs.entry? p = some .directory
  · exact shorten_one_of_directory hg hp s
  · by_cases hidle : Path.isIdle s = true
    · simp only [shorten, if_pos hidle]
    · by_cases hup : s = ".."
      · simp only [shorten, if_neg hidle, if_pos hup]
      · -- a segment below a place that is no directory leads to a place below none
        rw [shorten, if_neg hidle, if_neg hup] at h
        split at h
        · exact absurd h (by simp)
        · split at h
          · rw [shorten] at h
            rw [← Option.some.inj h, List.dropLast_concat] at habove
            exact absurd habove hp
          · rename_i hdir
            exact absurd hdir hp
          · exact absurd h (by simp)

/-! ## The place of a plain path -/

theorem isDirectory_iff {place : List String} :
    fs.isDirectory place = true ↔ fs.entry? place = some .directory := by
  rw [isDirectory]
  cases fs.entry? place with
  | none => simp
  | some e => cases e <;> simp [Entry.isDirectory]

/-- **A path whose directory is there leads to the same place in every later tree.** -/
theorem storePlace?_of_grows (hg : Grows fs fs')
    (habove : ∀ d, Path.parent? path = some d → fs.Reaches d)
    (h : fs.storePlace? path = some place) (hplace : fs.isDirectory place.dropLast = true) :
    fs'.storePlace? path = some place := by
  have hshort : fs.shorten (fs.startOf path) (Path.segments path) = some place :=
    (Option.filter_eq_some_iff.mp h).1
  suffices hsame : fs'.shorten (fs.startOf path) (Path.segments path)
      = fs.shorten (fs.startOf path) (Path.segments path) by
    rw [storePlace?] at h ⊢
    rw [startOf_of_grows hg, hsame]
    exact h
  rw [← shorten_named, ← shorten_named fs]
  rw [← shorten_named] at hshort
  rcases Path.parent?_cases path with hnone | ⟨d, last, hparent, habsolute, hnamed⟩
  · rw [hnone]
    rfl
  · rw [hnamed] at hshort ⊢
    have hlast : Path.named (Path.segments d) = [] →
        fs'.shorten (fs.startOf path) (Path.named (Path.segments d) ++ [last])
          = fs.shorten (fs.startOf path) (Path.named (Path.segments d) ++ [last]) := by
      intro hd
      rw [hd, List.nil_append] at hshort ⊢
      exact shorten_last hg hshort (isDirectory_iff.mp hplace)
    rcases (habove d hparent).leads with hempty | hroot | ⟨q, hq⟩
    · exact hlast (by rw [hempty]; decide)
    · exact hlast (by rw [hroot]; decide)
    · have hstart : fs.startOf d = fs.startOf path := by rw [startOf, startOf, habsolute]
      have hfollow : fs.follow (fs.startOf path) (Path.segments d) = .found q .directory := by
        rw [locate] at hq
        split at hq
        · exact absurd hq (by simp)
        · split at hq
          · exact absurd hq (by simp)
          · rw [hstart] at hq
            exact hq
      exact shorten_of_follow hg (follow_named hfollow)
        (shorten_one_of_directory hg (directory_at_end hfollow) last)

end DashIndex.Files
