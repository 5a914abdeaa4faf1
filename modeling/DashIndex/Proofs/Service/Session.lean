import DashIndex.Proofs.Store.Numbering
import DashIndex.Service.Session

/-!
# Steps that leave no trace

Two kinds of step do not change a session: those that only ask, and those that
fail. The second is the one that could go wrong, because a step may fail after it
has begun: an opening that is refused has by then given the store a note, if it
had none. It is `opened_eq_error` that rules this out, as a refusal is about a note
that was there.

A step that does not change the session can be left out of a run, and nothing that
comes after it can tell. So any set of them can. What the database makes of statements
is no part of the session: each search comes with its own, which may have drawn its
numbers, and keeps it when others are left out.
-/

namespace DashIndex

/-- Whether a step only asks. -/
def Step.isReadOnly : Step → Bool
  | .search _ _ | .sortOptions | .sortOption _ | .names | .config | .count | .tagsFor _
  | .schemaVersion | .dump => true
  | .add _ | .register _ | .setSchemaVersion _ | .reopen => false

namespace Session

/-! ## One step -/

/-- **A step that only asks leaves the session as it is.** -/
theorem step_of_isReadOnly (s : Session) {x : Step} (h : x.isReadOnly = true) :
    (s.step x).2 = s := by
  cases x with
  | search query evaluate =>
      rw [step]
      split
      · rfl
      · rfl
  | schemaVersion =>
      rw [step]
      split
      · rfl
      · rfl
  | add _ | register _ | setSchemaVersion _ | reopen => exact absurd h (by simp [Step.isReadOnly])
  | _ => rfl

/-- An opening that is refused leaves the store as it is. -/
theorem reopen_eq_error {s : Session} {e : StoreError} {store : Store}
    (h : s.reopen = (.error e, store)) : store = s.store := by
  unfold reopen at h
  cases hk : s.kind with
  | memory => rw [hk] at h; exact absurd h (by simp)
  | file =>
      rw [hk] at h
      exact (Store.opened_eq_error.mp h).1

/-- **A step that fails leaves the session as it is.** -/
theorem step_of_isFailure (s : Session) {x : Step} (h : (s.step x).1.isFailure = true) :
    (s.step x).2 = s := by
  by_cases hx : x.isReadOnly = true
  · exact step_of_isReadOnly s hx
  · cases x with
    | add dashboard =>
        rw [step] at h ⊢
        split at h
        · rfl
        · split at h
          · rfl
          · exact absurd h (by simp [Answer.isFailure])
    | reopen =>
        rw [step] at h ⊢
        split at h
        · rename_i e store hr
          rw [reopen_eq_error hr]
        · exact absurd h (by simp [Answer.isFailure])
    | register option => exact absurd h (by simp [step, Answer.isFailure])
    | setSchemaVersion note => exact absurd h (by simp [step, Answer.isFailure])
    | _ => exact absurd rfl hx

/-- **A step leads from a store that comes about to one that does.** -/
theorem reachable_step {s : Session} (h : s.store.Reachable) (x : Step) :
    (s.step x).2.store.Reachable := by
  cases x with
  | add dashboard =>
      rw [step]
      split
      · exact h
      · split
        · exact h
        · rename_i hadd
          exact h.add hadd
  | setSchemaVersion note => exact h.note note
  | reopen =>
      have hopened : s.reopen.2.Reachable := by
        unfold reopen
        cases s.kind with
        | memory => exact .fresh
        | file => exact Store.reachable_opened h
      rw [step]
      split
      · rename_i hr
        rwa [hr] at hopened
      · rename_i hr
        rwa [hr] at hopened
  | register option => exact h
  | _ =>
      rw [step_of_isReadOnly s rfl]
      exact h

/-! ## A whole run -/

/-- The session after some steps. -/
def after (s : Session) (steps : List Step) : Session :=
  steps.foldl (fun s x => (s.step x).2) s

theorem run_append (s : Session) (xs ys : List Step) :
    s.run (xs ++ ys) = s.run xs ++ (s.after xs).run ys := by
  induction xs generalizing s with
  | nil => rfl
  | cons x xs ih =>
      rw [List.cons_append, run, run, ih]
      rfl

/-- **Whatever is asked of a session, its store is one that comes about.** -/
theorem reachable_after {s : Session} (h : s.store.Reachable) (steps : List Step) :
    (s.after steps).store.Reachable := by
  induction steps generalizing s with
  | nil => exact h
  | cons x xs ih => exact ih (reachable_step h x)

/-- What is left of a list when the marked elements are taken out; any beyond the marks stay. -/
def unmarked {α : Type} : List Bool → List α → List α
  | true :: marks, _ :: xs => unmarked marks xs
  | false :: marks, x :: xs => x :: unmarked marks xs
  | _, xs => xs

theorem run_cons (s : Session) (x : Step) (xs : List Step) :
    s.run (x :: xs) = (s.step x).1 :: (s.step x).2.run xs := rfl

/--
**Steps that only ask or fail can be left out of a run.**

Take any run of any session and mark steps of it, each of which only asks or has
answered with a failure. Without the marked steps all others are answered as they
were, those that add dashboards with the same numbers. A term from outside is put to
the database over the same store and with the same statement and values.
-/
theorem run_unmarked (s : Session) (steps : List Step) (marks : List Bool)
    (h : ∀ p ∈ marks.zip (steps.zip (s.run steps)),
      p.1 = true → p.2.1.isReadOnly = true ∨ p.2.2.isFailure = true) :
    s.run (unmarked marks steps) = unmarked marks (s.run steps) := by
  induction steps generalizing s marks with
  | nil =>
      cases marks with
      | nil => rfl
      | cons m marks => cases m <;> rfl
  | cons x xs ih =>
      cases marks with
      | nil => rfl
      | cons m marks =>
          have hrest := ih (s.step x).2 marks fun p hp => h p (List.mem_cons_of_mem _ hp)
          cases m with
          | false =>
              rw [run_cons, unmarked, unmarked, run_cons, hrest]
          | true =>
              -- the marked step leaves the session as it is, so the rest starts from the same one
              have hsame : (s.step x).2 = s := by
                rcases h _ List.mem_cons_self rfl with hread | hfail
                · exact step_of_isReadOnly s hread
                · exact step_of_isFailure s hfail
              rw [run_cons, unmarked, unmarked, ← hrest, hsame]

/-- A provider of an order that is drawn anew for each search. -/
def drawnOrder : Provider where
  name := "drawn-order"
  options := [{ name := "drawn", terms := [.custom "random()" none] }]

/-- A draw that leaves the rows as they stand. -/
def drawNothing : Evaluator := fun store _ _ =>
  .ok (store.rows.map fun r => ⟨r.id, r.uid, r.title, r.folder, none⟩)

/-- A new session over a file. -/
def fileSession : Session := start (Service.ofProviders {} [usageInsights, drawnOrder]) .file

/-- Two additions; between them a value that is no dashboard, a refused opening, questions. -/
def troubledSteps : List Step :=
  [.add (Dashboard.create "a" "A" 1).toJson, .add .null, .setSchemaVersion (some "2"), .reopen,
    .search {} drawNothing, .setSchemaVersion none, .schemaVersion, .reopen,
    .search { sort := some "drawn" } drawNothing, .add (Dashboard.create "b" "B" 2).toJson]

/-- The steps that only ask or fail, but for the search in a drawn order. -/
def troubles : List Bool := [false, true, false, true, true, false, true]

/--
The dashboard is found, and the second one is given the next number, whether or not there
was trouble before.
-/
theorem run_unmarked_of_troubles :
    fileSession.run (unmarked troubles troubledSteps)
        = unmarked troubles (fileSession.run troubledSteps)
      ∧ fileSession.run (unmarked troubles troubledSteps)
        = [.rowId 1, .done, .done, .done, .hits [⟨1, "a", "A", none, [], none, none⟩],
          .rowId 2] := by
  have h : ∀ p ∈ troubles.zip (troubledSteps.zip (fileSession.run troubledSteps)),
      p.1 = true → p.2.1.isReadOnly = true ∨ p.2.2.isFailure = true := by decide
  exact ⟨run_unmarked fileSession troubledSteps troubles h, by with_unfolding_all rfl⟩

end Session

end DashIndex
