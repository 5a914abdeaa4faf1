import DashIndex.Proofs.Store.Opening

/-!
# What a note says about the version

A note is read in two places: when a store is asked for its version, and when it is
opened. The answer tells why a note cannot be read; opening takes every such note for
version zero. Where a note can be read, both go by the same number, and the note that an
opening leaves can always be read.
-/

namespace DashIndex

open Text

/-- The words of a reading error tell it. -/
theorem Text.IntegerError.message_injective {e e' : IntegerError} (h : e.message = e'.message) :
    e = e' := by
  cases e <;> cases e' <;> first | rfl | exact absurd h (by decide)

namespace Store

variable {s : Store} {note : String}

/-- The store answers that its version cannot be read from the note, for this reason. -/
def Unreadable (s : Store) (note reason : String) : Prop :=
  ∃ e, s.version = .error e ∧ e.message = "parsing schema_version `" ++ note ++ "`: " ++ reason

theorem version_of_ok (h : s.schemaVersion = some note) {v : Int}
    (hread : readInt64 note = .ok v) : s.version = .ok v := by
  rw [version, h]
  dsimp only
  rw [hread]

theorem version_of_error (h : s.schemaVersion = some note) {cause : IntegerError}
    (hread : readInt64 note = .error cause) :
    s.version = .error (.versionUnreadable note cause) := by
  rw [version, h]
  dsimp only
  rw [hread]

theorem version_eq_ok (h : s.schemaVersion = some note) {v : Int} :
    s.version = .ok v ↔ Reads minInt64 maxInt64 note.toList (.ok v) := by
  rw [← readInteger_eq_iff (by decide) (by decide), ← readInt64]
  cases hread : readInt64 note with
  | ok w => rw [version_of_ok h hread, Except.ok.injEq, Except.ok.injEq]
  | error cause => simp [version_of_error h hread]

theorem unreadable_iff (h : s.schemaVersion = some note) (cause : IntegerError) :
    s.Unreadable note cause.message ↔ Reads minInt64 maxInt64 note.toList (.error cause) := by
  rw [← readInteger_eq_iff (by decide) (by decide), ← readInt64]
  constructor
  · rintro ⟨e, herror, hmessage⟩
    cases hread : readInt64 note with
    | ok v =>
        rw [version_of_ok h hread] at herror
        exact absurd herror (by simp)
    | error cause' =>
        rw [version_of_error h hread] at herror
        rw [← Except.error.inj herror] at hmessage
        rw [IntegerError.message_injective ((String.append_right_inj _).mp hmessage)]
  · intro hread
    exact ⟨_, version_of_error h hread, rfl⟩

/-- A version that can be asked for is the one that opening goes by. -/
theorem assumedVersion_of_version {v : Int} (h : s.version = .ok v) :
    assumedVersion s.schemaVersion = v := by
  cases hs : s.schemaVersion with
  | none =>
      rw [version, hs] at h
      exact absurd h (by simp)
  | some note =>
      cases hread : readInt64 note with
      | ok w =>
          rw [version_of_ok hs hread] at h
          rw [assumedVersion_of_ok hread, Except.ok.inj h]
      | error cause =>
          rw [version_of_error hs hread] at h
          exact absurd h (by simp)

/-- What is migrated has the supported version. -/
theorem version_of_migrate {s' : Store} (h : s.migrate = .ok s') :
    s'.version = .ok currentVersion := by
  unfold migrate at h
  dsimp only at h
  split at h
  · rename_i hv
    obtain rfl := Except.ok.inj h
    obtain ⟨note, hnote, hread⟩ := readInt64_of_assumedVersion (show _ ≠ 0 by rw [hv]; decide)
    rw [version_of_ok hnote hread, hv]
  · split at h
    · exact absurd h (by simp)
    · obtain rfl := Except.ok.inj h
      rfl

/-- A version that can be asked for decides what migrating does. -/
theorem migrate_of_version {v : Int} (h : s.version = .ok v) :
    s.migrate = if v = currentVersion then .ok s
      else if currentVersion < v then .error (.newerVersion v) else .ok s.relabelled := by
  rw [migrate, assumedVersion_of_version h]
  rfl

/--
**A note states a version if it is a numeral that fits into 64 bits.**

Any other note is answered with what is wrong with it, and with one thing only: it is
empty; it is a lone sign, or has a character that is no digit before its number has grown
too great; or its number is too great for its sign, whatever comes after the digits that
make it so. A store without a note answers that there is none. Migrating goes by the
version that is answered, and the note that it leaves states the supported one.
-/
theorem version_of_every_note (s : Store) :
    (s.schemaVersion = none →
        s.version = .error .versionMissing
          ∧ StoreError.versionMissing.message = "schema_version missing from meta")
      ∧ (∀ note, s.schemaVersion = some note →
        (∀ v, s.version = .ok v ↔ ∃ negative ds, SplitsSign note.toList negative ds ∧ ds ≠ []
            ∧ (∀ d ∈ ds, d.isDigit = true) ∧ signed negative (decimalFrom 0 ds) = v
            ∧ minInt64 ≤ v ∧ v ≤ maxInt64)
        ∧ (s.Unreadable note "cannot parse integer from empty string" ↔ note.toList = [])
        ∧ (s.Unreadable note "invalid digit found in string" ↔
            note.toList = ['+'] ∨ note.toList = ['-']
              ∨ ∃ negative ds c rest, SplitsSign note.toList negative (ds ++ c :: rest)
                ∧ (∀ d ∈ ds, d.isDigit = true) ∧ c.isDigit = false
                ∧ minInt64 ≤ signed negative (decimalFrom 0 ds)
                ∧ signed negative (decimalFrom 0 ds) ≤ maxInt64)
        ∧ (s.Unreadable note "number too large to fit in target type" ↔
            ∃ ds rest, SplitsSign note.toList false (ds ++ rest)
              ∧ (∀ d ∈ ds, d.isDigit = true) ∧ maxInt64 < decimalFrom 0 ds)
        ∧ (s.Unreadable note "number too small to fit in target type" ↔
            ∃ ds rest, SplitsSign note.toList true (ds ++ rest)
              ∧ (∀ d ∈ ds, d.isDigit = true) ∧ -(decimalFrom 0 ds : Int) < minInt64))
      ∧ (∀ v, s.version = .ok v →
        s.migrate = if v = currentVersion then .ok s
          else if currentVersion < v then .error (.newerVersion v) else .ok s.relabelled)
      ∧ ∀ s', s.migrate = .ok s' → s'.version = .ok currentVersion := by
  refine ⟨fun h => ⟨?_, rfl⟩, fun note h => ⟨fun v => ?_, ?_, ?_, ?_, ?_⟩,
    fun v => migrate_of_version, fun s' => version_of_migrate⟩
  · rw [version, h]
  · exact (version_eq_ok h).trans reads_ok_iff
  · exact (unreadable_iff h .empty).trans reads_empty_iff
  · exact (unreadable_iff h .invalidDigit).trans reads_invalidDigit_iff
  · exact (unreadable_iff h .tooLarge).trans reads_tooLarge_iff
  · exact (unreadable_iff h .tooSmall).trans reads_tooSmall_iff

/-- The smallest number is read, and a number too large is reported before what follows it. -/
theorem version_of_every_note_at_bounds :
    (withNote "-9223372036854775808").version = .ok minInt64
      ∧ (withNote "-9223372036854775808").migrate
        = .ok (withNote "-9223372036854775808").relabelled
      ∧ (withNote "9223372036854775808x").Unreadable "9223372036854775808x"
        "number too large to fit in target type"
      ∧ (withNote "922337203685477580x").Unreadable "922337203685477580x"
        "invalid digit found in string" := by
  have hsmallest : (withNote "-9223372036854775808").version = .ok minInt64 :=
    (((version_of_every_note (withNote "-9223372036854775808")).2.1 _ rfl).1 minInt64).mpr
      ⟨true, "9223372036854775808".toList, .minus _, by decide, List.all_eq_true.mp rfl, rfl,
        by decide, by decide⟩
  refine ⟨hsmallest, ?_, ?_, ?_⟩
  · exact (version_of_every_note _).2.2.1 _ hsmallest
  · exact ((version_of_every_note _).2.1 _ rfl).2.2.2.1.mpr
      ⟨"9223372036854775808".toList, ['x'], .bare (by decide) (by decide),
        List.all_eq_true.mp rfl, by decide⟩
  · exact ((version_of_every_note _).2.1 _ rfl).2.2.1.mpr (Or.inr (Or.inr
      ⟨false, "922337203685477580".toList, 'x', [], .bare (by decide) (by decide),
        List.all_eq_true.mp rfl, rfl, by decide, by decide⟩))

end Store

end DashIndex
