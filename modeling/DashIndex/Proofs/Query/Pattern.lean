import DashIndex.Proofs.Search.Membership

/-!
# What the text of a query asks of a title

The text of a query, without the blanks around it, becomes a pattern: it is escaped
and put between two runs. Escaping leaves nothing special in it, so that the pattern
splits into a run, one letter for each character of the text, and a second run, and a
title matches if it contains the text.

NUL is the one character that escaping cannot keep, because a pattern is read to its
first NUL. The second run is then cut off together with the rest of the text, and a
title matches if it ends with what is left. A title is read to its first NUL as well.
-/

namespace DashIndex

open Text.Like

/--
**The pattern of a text asks for that text and for nothing else.**

A text that is not blank has a pattern, the escaped text between two `%`. As far as it
is read, it consists of the characters of the text as letters, whatever they are, after
a run and, if no NUL cut it short, before another. A title matches if and only if what
it has before its first NUL contains the text, up to the case of ASCII letters; if the
text was cut short, the title must end with what stands before the cut.
-/
theorem Query.pattern_asks_for_text (q : Query) (hq : q.needle ≠ []) :
    ∃ pattern, q.pattern? = some pattern
      ∧ pattern.toList = '%' :: (escape q.needle ++ ['%'])
      ∧ tokens (untilNul pattern.toList)
          = some (.run :: ((untilNul q.needle).map .letter
            ++ if '\x00' ∈ q.needle then [] else [.run]))
      ∧ ('\x00' ∉ q.needle → ∀ title : String,
          accepts pattern.toList title.toList = true
            ↔ q.needle.map fold <:+: (untilNul title.toList).map fold)
      ∧ ('\x00' ∈ q.needle → ∀ title : String,
          accepts pattern.toList title.toList = true
            ↔ (untilNul q.needle).map fold <:+ (untilNul title.toList).map fold) := by
  refine ⟨_, Query.pattern?_of_not_blank hq, ?_⟩
  rw [String.toList_ofList]
  refine ⟨rfl, tokens_untilNul_containing q.needle, fun hnul title => ?_, fun hnul title => ?_⟩
  · exact accepts_containing_of_nul_free hnul title.toList
  · exact accepts_containing_of_nul hnul title.toList

/-- A text of special characters only, between blanks. -/
def specialQuery : Query where
  text := " %_\\\\% "

/-- A text with a NUL behind a special character. -/
def cutQuery : Query where
  text := "a_\\\x00%b"

/-- Special characters stand for themselves, and a text with a NUL for an ending. -/
theorem Query.pattern_asks_for_special_text :
    (∃ pattern, specialQuery.pattern? = some pattern
        ∧ accepts pattern.toList "10%_\\\\% off".toList = true
        ∧ ¬ accepts pattern.toList "10%_\\% off".toList = true)
      ∧ ∃ pattern, cutQuery.pattern? = some pattern
        ∧ accepts pattern.toList "CA_\\\x00 and more".toList = true
        ∧ ¬ accepts pattern.toList "A_\\ and more".toList = true := by
  constructor
  · obtain ⟨pattern, hpattern, _, _, hcontains, _⟩ :=
      Query.pattern_asks_for_text specialQuery (by decide)
    refine ⟨pattern, hpattern, ?_, ?_⟩
    · rw [hcontains (by decide)]
      exact ⟨"10".toList, " off".toList, rfl⟩
    · rw [hcontains (by decide)]
      -- the text has two backslashes, the title has one
      exact fun h => absurd (h.sublist.count_le '\\') (by decide)
  · obtain ⟨pattern, hpattern, _, _, _, hends⟩ :=
      Query.pattern_asks_for_text cutQuery (by decide)
    refine ⟨pattern, hpattern, ?_, ?_⟩
    · rw [hends (by decide)]
      exact ⟨"c".toList, rfl⟩
    · rw [hends (by decide), List.suffix_iff_eq_drop]
      decide

end DashIndex
