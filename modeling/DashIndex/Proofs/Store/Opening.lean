import DashIndex.Proofs.Store.Reachable
import DashIndex.Proofs.Text.Integer
import Mathlib.Logic.Function.Iterate

/-!
# What opening a store does to it

Opening has three outcomes, and `opened_cases` says which note leads to which: a
note of a later version is refused, a note of the supported version is left, and
anything else (an earlier version, a text that is no number, no note) is
overwritten with the supported version. The note that a store without one is given
on the way counts as version zero, so it is never what a refusal is about, and
that is why a refusal leaves no trace.

A numeral that does not fit into 64 bits is a text that is no number here. So a
store that carries one is not refused, however late a version it states.
-/

namespace DashIndex.Store

theorem currentVersion_pos : 0 < currentVersion := by decide

theorem noted_of_some {s : Store} {note : String} (h : s.schemaVersion = some note) :
    s.noted = s := by
  cases s
  subst h
  rfl

theorem assumedVersion_of_ok {note : String} {v : Int} (h : Text.readInt64 note = .ok v) :
    assumedVersion (some note) = v := by
  simp [assumedVersion, h]

theorem assumedVersion_of_error {note : String} {e : Text.IntegerError}
    (h : Text.readInt64 note = .error e) : assumedVersion (some note) = 0 := by
  simp [assumedVersion, h]

/-- A version other than zero was read from a note. -/
theorem readInt64_of_assumedVersion {s : Store} (h : assumedVersion s.schemaVersion ≠ 0) :
    ∃ note, s.schemaVersion = some note
      ∧ Text.readInt64 note = .ok (assumedVersion s.schemaVersion) := by
  cases hs : s.schemaVersion with
  | none => exact absurd (by rw [hs]; rfl) h
  | some note =>
      refine ⟨note, rfl, ?_⟩
      cases hread : Text.readInt64 note with
      | ok v => rw [assumedVersion_of_ok hread]
      | error e => exact absurd (by rw [hs, assumedVersion_of_error hread]) h

/-- The note that a store without one is given counts for nothing. -/
theorem assumedVersion_noted (s : Store) :
    assumedVersion s.noted.schemaVersion = assumedVersion s.schemaVersion := by
  cases hs : s.schemaVersion with
  | none => rw [noted, hs]; rfl
  | some note => rw [noted_of_some hs, hs]

/-! ## The three outcomes -/

/-- The store with the note of the supported version. -/
def relabelled (s : Store) : Store :=
  { s with schemaVersion := some (toString currentVersion) }

/-- **A later version is refused, the supported one left, anything else overwritten.** -/
theorem opened_cases (s : Store) :
    (currentVersion < assumedVersion s.schemaVersion
        ∧ s.opened = (.error (.newerVersion (assumedVersion s.schemaVersion)), s))
      ∨ (assumedVersion s.schemaVersion = currentVersion ∧ s.opened = (.ok (), s))
      ∨ (assumedVersion s.schemaVersion < currentVersion
        ∧ s.opened = (.ok (), s.relabelled)) := by
  have hmigrate : s.noted.migrate
      = if assumedVersion s.schemaVersion = currentVersion then .ok s.noted
        else if currentVersion < assumedVersion s.schemaVersion then
          .error (.newerVersion (assumedVersion s.schemaVersion))
        else .ok s.relabelled := by
    rw [migrate, assumedVersion_noted]; rfl
  -- a store that is not overwritten had a note already
  have hkept : assumedVersion s.schemaVersion ≠ 0 → s.noted = s := by
    intro hne
    obtain ⟨note, hnote, _⟩ := readInt64_of_assumedVersion hne
    exact noted_of_some hnote
  have hpos := currentVersion_pos
  rcases Int.lt_trichotomy (assumedVersion s.schemaVersion) currentVersion with h | h | h
  · right; right
    refine ⟨h, ?_⟩
    rw [opened, hmigrate, if_neg (by omega), if_neg (by omega)]
  · right; left
    refine ⟨h, ?_⟩
    rw [opened, hmigrate, if_pos h, hkept (by omega)]
  · left
    refine ⟨h, ?_⟩
    rw [opened, hmigrate, if_neg (by omega), if_pos h, hkept (by omega)]

/-- Opening is refused if and only if the note states a later version, and then nothing changes. -/
theorem opened_eq_error {s s' : Store} {e : StoreError} :
    s.opened = (.error e, s')
      ↔ s' = s ∧ ∃ note v, s.schemaVersion = some note ∧ Text.readInt64 note = .ok v
          ∧ currentVersion < v ∧ e = .newerVersion v := by
  constructor
  · intro h
    rcases opened_cases s with ⟨hv, ho⟩ | ⟨_, ho⟩ | ⟨_, ho⟩
    · rw [ho] at h
      obtain ⟨he, hs⟩ := Prod.mk.inj h
      have hpos := currentVersion_pos
      obtain ⟨note, hnote, hread⟩ :=
        readInt64_of_assumedVersion (show assumedVersion s.schemaVersion ≠ 0 by omega)
      exact ⟨hs.symm, note, _, hnote, hread, hv, (Except.error.inj he).symm⟩
    · rw [ho] at h; exact absurd h (by simp)
    · rw [ho] at h; exact absurd h (by simp)
  · rintro ⟨rfl, note, v, hnote, hread, hv, rfl⟩
    have ha : assumedVersion s'.schemaVersion = v := by rw [hnote, assumedVersion_of_ok hread]
    rcases opened_cases s' with ⟨_, ho⟩ | ⟨hv', _⟩ | ⟨hv', _⟩
    · rw [ho, ha]
    · omega
    · omega

theorem opened_of_supported {s : Store} (h : assumedVersion s.schemaVersion = currentVersion) :
    s.opened = (.ok (), s) := by
  rcases opened_cases s with ⟨hv, _⟩ | ⟨_, ho⟩ | ⟨hv, _⟩
  · omega
  · exact ho
  · omega

/-- Opening brings a store to the supported version. -/
theorem assumedVersion_of_opened {s s' : Store} (h : s.opened = (.ok (), s')) :
    assumedVersion s'.schemaVersion = currentVersion := by
  rcases opened_cases s with ⟨_, ho⟩ | ⟨hv, ho⟩ | ⟨_, ho⟩
  · rw [ho] at h; exact absurd h (by simp)
  · rw [ho] at h
    obtain ⟨_, rfl⟩ := Prod.mk.inj h
    exact hv
  · rw [ho] at h
    obtain ⟨_, rfl⟩ := Prod.mk.inj h
    rfl

theorem version_of_opened {s s' : Store} (h : s.opened = (.ok (), s')) :
    s'.version = .ok currentVersion := by
  have hv := assumedVersion_of_opened h
  obtain ⟨note, hnote, hread⟩ := readInt64_of_assumedVersion (show _ ≠ 0 by rw [hv]; decide)
  rw [version, hnote]
  dsimp only
  rw [hread, hv]

/-- Opening changes the note at most, whatever comes of it. -/
theorem opened_data (s : Store) :
    s.opened.2.rows = s.rows ∧ s.opened.2.tags = s.tags ∧ s.opened.2.lastId = s.lastId := by
  rcases opened_cases s with ⟨_, ho⟩ | ⟨_, ho⟩ | ⟨_, ho⟩ <;> rw [ho] <;> exact ⟨rfl, rfl, rfl⟩

/--
**Opening is atomic and keeps what a store holds.**

A store without a note, or with one that reads as a version up to the supported
one, is opened. A store that was opened is at the supported version; its rows, its
tags and the numbers it has given out are as they were, and opening it again
changes nothing. A store is refused if and only if its note reads as a later
version; then nothing has changed, the note included, and the message names that
version.
-/
theorem opened_atomic (s : Store) :
    (s.schemaVersion = none → ∃ s', s.opened = (.ok (), s'))
      ∧ (∀ note v, s.schemaVersion = some note → Text.readInt64 note = .ok v → v ≤ 1 →
          ∃ s', s.opened = (.ok (), s'))
      ∧ (∀ note v, s.schemaVersion = some note → Text.readInt64 note = .ok v → 1 < v →
          ∃ e s', s.opened = (.error e, s'))
      ∧ (∀ s', s.opened = (.ok (), s') →
          s'.version = .ok 1 ∧ s'.rows = s.rows ∧ s'.tags = s.tags ∧ s'.lastId = s.lastId
            ∧ s'.opened = (.ok (), s'))
      ∧ (∀ e s', s.opened = (.error e, s') →
          s' = s ∧ ∃ note v, s.schemaVersion = some note ∧ Text.readInt64 note = .ok v ∧ 1 < v
            ∧ e.message = "database schema version " ++ toString v
                ++ " is newer than supported version 1") := by
  have hopens : assumedVersion s.schemaVersion ≤ 1 → ∃ s', s.opened = (.ok (), s') := by
    intro hv
    rcases opened_cases s with ⟨hlater, _⟩ | ⟨_, ho⟩ | ⟨_, ho⟩
    · exact absurd hlater (Int.not_lt.mpr hv)
    · exact ⟨_, ho⟩
    · exact ⟨_, ho⟩
  refine ⟨?_, ?_, ?_, ?_, ?_⟩
  · intro hnone
    have hv : assumedVersion s.schemaVersion = 0 := by rw [hnone]; rfl
    exact hopens (by omega)
  · intro note v hnote hread hv
    rw [hnote, assumedVersion_of_ok hread] at hopens
    exact hopens hv
  · intro note v hnote hread hv
    exact ⟨_, _, opened_eq_error.mpr ⟨rfl, note, v, hnote, hread, hv, rfl⟩⟩
  · intro s' h
    obtain ⟨hrows, htags, hlast⟩ := opened_data s
    rw [h] at hrows htags hlast
    exact ⟨version_of_opened h, hrows, htags, hlast,
      opened_of_supported (assumedVersion_of_opened h)⟩
  · intro e s' h
    obtain ⟨hs, note, v, hnote, hread, hv, rfl⟩ := opened_eq_error.mp h
    exact ⟨hs, note, v, hnote, hread, hv, rfl⟩

/-- A store with one dashboard and a note. -/
def withNote (note : String) : Store :=
  { fresh.insertAll [.create "a" "b" 1] with schemaVersion := some note }

/-- An earlier version, written with a sign and zeros, is overwritten; a later one is refused. -/
theorem opened_atomic_of_spellings :
    (∃ s', (withNote "-007").opened = (.ok (), s') ∧ s'.version = .ok 1
        ∧ s'.rows.map Row.uid = ["a"] ∧ s'.lastId = 1 ∧ s'.opened = (.ok (), s'))
      ∧ ∃ e, (withNote "+02").opened = (.error e, withNote "+02")
          ∧ e.message = "database schema version 2 is newer than supported version 1" := by
  constructor
  · obtain ⟨_, hopens, _, hkeeps, _⟩ := opened_atomic (withNote "-007")
    obtain ⟨s', h⟩ := hopens "-007" (-7) rfl rfl (by decide)
    obtain ⟨hversion, hrows, _, hlast, hagain⟩ := hkeeps s' h
    exact ⟨s', h, hversion, by rw [hrows]; rfl, hlast, hagain⟩
  · obtain ⟨_, _, hrefuses, _, hleaves⟩ := opened_atomic (withNote "+02")
    obtain ⟨e, s', h⟩ := hrefuses "+02" 2 rfl rfl (by decide)
    obtain ⟨rfl, note, v, hnote, hread, _, hmessage⟩ := hleaves e s' h
    obtain rfl : "+02" = note := Option.some.inj hnote
    obtain rfl : (2 : Int) = v := Except.ok.inj hread
    exact ⟨e, h, hmessage⟩

/-! ## Numerals of any length -/

/--
**A later version is refused as long as it fits into 64 bits.**

A numeral above the supported version is refused, and any number of openings
leaves the store as it is, provided that it stands for a signed 64-bit integer. Any
greater one is taken for no number: the store is opened and its note overwritten.
-/
theorem opened_of_numeral {s : Store} {text : String} {n : Nat} (hs : s.schemaVersion = some text)
    (hn : Text.IsNumeral text n) (h1 : 1 < n) :
    ((n : Int) ≤ Text.maxInt64 →
        s.opened = (.error (.newerVersion n), s) ∧ ∀ k, (fun s => s.opened.2)^[k] s = s)
      ∧ (Text.maxInt64 < (n : Int) → s.opened = (.ok (), s.relabelled)) := by
  have hread := Text.readInt64_of_isNumeral hn
  constructor
  · intro hle
    rw [if_pos hle] at hread
    have hlater : currentVersion < (n : Int) := Int.ofNat_lt.mpr h1
    have hrefused : s.opened = (.error (.newerVersion n), s) :=
      opened_eq_error.mpr ⟨rfl, text, n, hs, hread, hlater, rfl⟩
    exact ⟨hrefused, fun k => Function.iterate_fixed (by rw [hrefused]) k⟩
  · intro hlt
    rw [if_neg (by omega)] at hread
    have ha : assumedVersion s.schemaVersion = 0 := by rw [hs, assumedVersion_of_error hread]
    have hpos := currentVersion_pos
    rcases opened_cases s with ⟨hv, _⟩ | ⟨hv, _⟩ | ⟨_, ho⟩
    · omega
    · omega
    · exact ho

/-- The greatest version that is refused, with a sign and zeros before it. -/
theorem opened_of_greatest_numeral :
    Text.IsNumeral "+0009223372036854775807" 9223372036854775807
      ∧ (withNote "+0009223372036854775807").opened
          = (.error (.newerVersion 9223372036854775807), withNote "+0009223372036854775807") := by
  have hn : Text.IsNumeral "+0009223372036854775807" 9223372036854775807 :=
    ⟨"0009223372036854775807".toList, by decide, List.all_eq_true.mp rfl, Or.inr rfl, rfl⟩
  exact ⟨hn, ((opened_of_numeral rfl hn (by decide)).1 (by decide)).1⟩

/-- A store whose note states a version beyond 64 bits. -/
def farStore : Store := withNote "9223372036854775808"

/-- **A version beyond 64 bits is not refused but overwritten with the supported one.** -/
theorem opened_forgets_far_version :
    farStore.Reachable ∧ farStore.schemaVersion = some "9223372036854775808"
      ∧ Text.IsNumeral "9223372036854775808" 9223372036854775808
      ∧ farStore.opened.1 = .ok () ∧ farStore.opened.2.schemaVersion = some "1" := by
  have hs : farStore.Reachable := (reachable_insertAll .fresh (by decide)).note _
  have hn : Text.IsNumeral "9223372036854775808" 9223372036854775808 :=
    ⟨"9223372036854775808".toList, by decide, List.all_eq_true.mp rfl, Or.inl rfl, rfl⟩
  exact ⟨hs, rfl, hn, by decide, by decide⟩

end DashIndex.Store
