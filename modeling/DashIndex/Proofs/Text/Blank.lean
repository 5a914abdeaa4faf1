import DashIndex.Text.Blank
import Mathlib.Data.List.DropRight

/-!
# Texts that differ by blanks at their ends

Trimming takes the blanks off the front and then off the end, and a text of blanks
only is used up by the first of the two. Nothing is left to the order in which that
happens: two texts trim to the same one if and only if there is one text from which
both come by putting blanks around it. `trim_eq_iff` says so.

What is not blank is never passed over, wherever in the text it stands.
-/

namespace DashIndex.Text

/-- Two texts are one text with blanks around it. -/
def DifferByBlanks (a b : List Char) : Prop :=
  ∃ core l r l' r' : List Char,
    (∀ c ∈ l ++ r, isBlank c = true) ∧ (∀ c ∈ l' ++ r', isBlank c = true)
      ∧ a = l ++ core ++ r ∧ b = l' ++ core ++ r'

theorem trimEnd_eq_rdropWhile (cs : List Char) : trimEnd cs = cs.rdropWhile isBlank := rfl

theorem trimEnd_append {r : List Char} (h : ∀ c ∈ r, isBlank c = true) (cs : List Char) :
    trimEnd (cs ++ r) = trimEnd cs := by
  have hreverse : ∀ c ∈ r.reverse, isBlank c = true := fun c hc => h c (List.mem_reverse.mp hc)
  rw [trimEnd, List.reverse_append, List.dropWhile_append_of_pos hreverse, trimEnd]

theorem trimEnd_append_cons {c : Char} (h : isBlank c = false) (a b : List Char) :
    trimEnd (a ++ c :: b) = a ++ c :: trimEnd b := by
  induction b using List.reverseRecOn with
  | nil =>
      have hc : ¬ isBlank c = true := by rw [h]; simp
      rw [trimEnd_eq_rdropWhile, List.rdropWhile_concat_neg _ _ _ hc]
      rfl
  | append_singleton b d ih =>
      have happend : a ++ c :: (b ++ [d]) = (a ++ c :: b) ++ [d] := by simp
      rw [happend]
      by_cases hd : isBlank d = true
      · have hall : ∀ x ∈ [d], isBlank x = true := fun x hx => List.mem_singleton.mp hx ▸ hd
        rw [trimEnd_append hall, trimEnd_append hall, ih]
      · rw [trimEnd_eq_rdropWhile, trimEnd_eq_rdropWhile, List.rdropWhile_concat_neg _ _ _ hd,
          List.rdropWhile_concat_neg _ _ _ hd, ← happend]

/-- **Blanks around a text do not count.** -/
theorem trim_append {l r : List Char} (hl : ∀ c ∈ l, isBlank c = true)
    (hr : ∀ c ∈ r, isBlank c = true) (core : List Char) : trim (l ++ core ++ r) = trim core := by
  rw [List.append_assoc, trim, trim, List.dropWhile_append_of_pos hl, List.dropWhile_append]
  split
  · -- the text is blank itself, so that the front takes all of it
    rename_i hblank
    rw [List.dropWhile_eq_nil_iff.mpr hr, List.isEmpty_iff.mp hblank]
  · exact trimEnd_append hr _

/-- A text is what it trims to with blanks around it. -/
theorem exists_trim (cs : List Char) :
    ∃ l r, (∀ c ∈ l ++ r, isBlank c = true) ∧ cs = l ++ trim cs ++ r := by
  refine ⟨cs.takeWhile isBlank, (cs.dropWhile isBlank).rtakeWhile isBlank, ?_, ?_⟩
  · intro c hc
    rcases List.mem_append.mp hc with hc | hc
    · exact List.mem_takeWhile_imp hc
    · exact List.mem_rtakeWhile_imp hc
  · rw [trim, trimEnd_eq_rdropWhile, List.append_assoc, List.rdropWhile_append_rtakeWhile,
      List.takeWhile_append_dropWhile]

/-- **Texts trim to the same if and only if they differ by blanks at their ends.** -/
theorem trim_eq_iff {a b : List Char} : trim a = trim b ↔ DifferByBlanks a b := by
  constructor
  · intro h
    obtain ⟨l, r, hlr, ha⟩ := exists_trim a
    obtain ⟨l', r', hlr', hb⟩ := exists_trim b
    exact ⟨trim a, l, r, l', r', hlr, hlr', ha, h ▸ hb⟩
  · rintro ⟨core, l, r, l', r', hlr, hlr', rfl, rfl⟩
    obtain ⟨hl, hr⟩ := List.forall_mem_append.mp hlr
    obtain ⟨hl', hr'⟩ := List.forall_mem_append.mp hlr'
    rw [trim_append hl hr, trim_append hl' hr']

theorem trim_eq_nil {cs : List Char} : trim cs = [] ↔ ∀ c ∈ cs, isBlank c = true := by
  constructor
  · intro h
    obtain ⟨l, r, hlr, hcs⟩ := exists_trim cs
    rw [h, List.append_nil] at hcs
    exact hcs ▸ hlr
  · intro h
    rw [trim, List.dropWhile_eq_nil_iff.mpr h]
    rfl

/-- **A character that is not blank stays, and what stands before and after it loses blanks only
at its outer end.** -/
theorem trim_append_cons {c : Char} (h : isBlank c = false) (a b : List Char) :
    trim (a ++ c :: b) = a.dropWhile isBlank ++ c :: trimEnd b := by
  have hc : ¬ isBlank c = true := by rw [h]; simp
  have hfront : (a ++ c :: b).dropWhile isBlank = a.dropWhile isBlank ++ c :: b := by
    rw [List.dropWhile_append, List.dropWhile_cons_of_neg hc]
    split
    · rename_i hblank
      rw [List.isEmpty_iff.mp hblank]
      rfl
    · rfl
  rw [trim, hfront, trimEnd_append_cons h]

/--
Characters that are easily taken for blanks: NUL, the four separators of the
control characters, the zero-width space and the byte order mark.
-/
def nearBlanks : List Char :=
  ['\x00', '\x1c', '\x1d', '\x1e', '\x1f', '\u200B', '\uFEFF']

theorem isBlank_of_mem_nearBlanks {c : Char} (h : c ∈ nearBlanks) : isBlank c = false := by
  have hall : nearBlanks.all (fun c => !isBlank c) = true := rfl
  simpa using List.all_eq_true.mp hall c h

end DashIndex.Text
