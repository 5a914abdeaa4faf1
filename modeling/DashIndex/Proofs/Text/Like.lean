import DashIndex.Text.Like
import Mathlib.Data.List.TakeWhile

/-!
# What the pattern of a needle matches

A needle is escaped so that the pattern around it says "contains". Two facts
carry this. Escaping is undone by splitting: the elements of an escaped needle
are its own characters, one letter each, whatever stands after it. And a pattern
of letters matches by taking one character after the other, so between two runs
it matches exactly the texts that hold the needle somewhere, up to case.

A pattern is read to its first NUL only. A needle with a NUL in it loses what comes
after, and with it the last run: what is left of it must then stand at the end.

No two texts are escaped alike, since splitting tells which text it was.
-/

namespace DashIndex.Text.Like

/-! ## Splitting undoes escaping -/

theorem escape_cons (c : Char) (cs : List Char) :
    escape (c :: cs) = (if isSpecial c then ['\\', c] else [c]) ++ escape cs := rfl

/-- A character that is not special is split off as a letter. -/
theorem tokens_cons_of_not_special {c : Char} (h : isSpecial c = false) (cs : List Char) :
    tokens (c :: cs) = (tokens cs).map (.letter c :: ·) := by
  simp only [isSpecial, Bool.or_eq_false_iff, beq_eq_false_iff_ne, ne_eq] at h
  obtain ⟨⟨hp, hu⟩, hb⟩ := h
  rw [tokens, tokensFrom, if_neg (by simp), if_neg hb, Token.ofChar, if_neg hp, if_neg hu, tokens]

/-- A character after a backslash is a letter, special or not. -/
theorem tokens_backslash_cons (c : Char) (cs : List Char) :
    tokens ('\\' :: c :: cs) = (tokens cs).map (.letter c :: ·) := rfl

theorem tokens_percent_cons (cs : List Char) :
    tokens ('%' :: cs) = (tokens cs).map (.run :: ·) := rfl

/-- **The elements of an escaped text are its characters.** -/
theorem tokens_escape_append (cs rest : List Char) :
    tokens (escape cs ++ rest) = (tokens rest).map (cs.map .letter ++ ·) := by
  induction cs with
  | nil => cases h : tokens rest <;> simp [escape, h]
  | cons c cs ih =>
      rw [escape_cons]
      have step : ∀ ts : List Char, tokens ts = (tokens (escape cs ++ rest)).map (.letter c :: ·) →
          tokens ts = (tokens rest).map ((c :: cs).map .letter ++ ·) := by
        intro ts hts
        rw [hts, ih]
        cases tokens rest <;> rfl
      cases hc : isSpecial c with
      | true => exact step _ (tokens_backslash_cons c (escape cs ++ rest))
      | false => exact step _ (tokens_cons_of_not_special hc (escape cs ++ rest))

theorem tokens_containing (needle : List Char) :
    tokens (containing needle) = some (.run :: (needle.map .letter ++ [.run])) := by
  rw [containing, tokens_percent_cons, tokens_escape_append]
  rfl

/-! ## NUL in a pattern -/

theorem mem_escape {c : Char} {cs : List Char} (h : c ∈ escape cs) : c = '\\' ∨ c ∈ cs := by
  obtain ⟨d, hd, hcd⟩ := List.mem_flatMap.mp h
  split at hcd
  · rcases List.mem_cons.mp hcd with rfl | hcd
    · exact Or.inl rfl
    · rw [List.mem_singleton] at hcd; exact Or.inr (hcd ▸ hd)
  · rw [List.mem_singleton] at hcd; exact Or.inr (hcd ▸ hd)

theorem untilNul_eq_self {cs : List Char} (h : '\x00' ∉ cs) : untilNul cs = cs := by
  unfold untilNul
  rw [List.takeWhile_eq_self_iff]
  intro c hc
  rw [bne_iff_ne]
  rintro rfl
  exact h hc

/-- The pattern of a needle without NUL is read to its end. -/
theorem untilNul_containing {needle : List Char} (h : '\x00' ∉ needle) :
    untilNul (containing needle) = containing needle := by
  refine untilNul_eq_self fun hm => ?_
  rcases List.mem_cons.mp hm with hm | hm
  · exact absurd hm (by decide)
  · rcases List.mem_append.mp hm with hm | hm
    · rcases mem_escape hm with hm | hm
      · exact absurd hm (by decide)
      · exact h hm
    · exact absurd (List.mem_singleton.mp hm) (by decide)

theorem untilNul_nul_cons (cs : List Char) : untilNul ('\x00' :: cs) = [] := rfl

theorem untilNul_cons {c : Char} (h : c ≠ '\x00') (cs : List Char) :
    untilNul (c :: cs) = c :: untilNul cs := by
  have hc : (c != '\x00') = true := bne_iff_ne.mpr h
  rw [untilNul, List.takeWhile_cons, if_pos hc, untilNul]

/-- An escaped text is cut where the text itself is, and never behind a backslash. -/
theorem untilNul_escape_append {cs : List Char} (h : '\x00' ∈ cs) (rest : List Char) :
    untilNul (escape cs ++ rest) = escape (untilNul cs) := by
  induction cs with
  | nil => exact absurd h List.not_mem_nil
  | cons c cs ih =>
      rw [escape_cons, List.append_assoc]
      by_cases hnul : c = '\x00'
      · subst hnul
        rw [untilNul_nul_cons]
        rfl
      · have hrest : '\x00' ∈ cs := (List.mem_cons.mp h).resolve_left fun h => hnul h.symm
        rw [untilNul_cons hnul, escape_cons, ← ih hrest]
        cases isSpecial c with
        | true =>
            rw [if_pos rfl, List.cons_append, List.cons_append, List.nil_append,
              untilNul_cons (show '\\' ≠ '\x00' by decide), untilNul_cons hnul]
            rfl
        | false =>
            rw [if_neg (by decide), List.cons_append, List.nil_append, untilNul_cons hnul]
            rfl

/-- The pattern of a needle with a NUL ends with what stands before the NUL. -/
theorem untilNul_containing_of_nul {needle : List Char} (h : '\x00' ∈ needle) :
    untilNul (containing needle) = '%' :: escape (untilNul needle) := by
  rw [containing, untilNul_cons (by decide), untilNul_escape_append h]

/-- **What is read of the pattern of a needle: a run, letters, and the last run unless cut off.** -/
theorem tokens_untilNul_containing (needle : List Char) :
    tokens (untilNul (containing needle))
      = some (.run :: ((untilNul needle).map .letter
          ++ if '\x00' ∈ needle then [] else [.run])) := by
  by_cases h : '\x00' ∈ needle
  · have hsplit := tokens_escape_append (untilNul needle) []
    rw [List.append_nil] at hsplit
    rw [untilNul_containing_of_nul h, tokens_percent_cons, hsplit, if_pos h]
    rfl
  · rw [untilNul_containing h, tokens_containing, untilNul_eq_self h, if_neg h]

/-! ## Matching -/

theorem anySuffix_eq_true {test : List Char → Bool} {cs : List Char} :
    anySuffix test cs = true ↔ ∃ s, s <:+ cs ∧ test s = true := by
  induction cs with
  | nil =>
      constructor
      · exact fun h => ⟨[], List.suffix_rfl, h⟩
      · rintro ⟨s, hs, ht⟩
        rw [List.suffix_nil] at hs
        subst hs; exact ht
  | cons c cs ih =>
      rw [anySuffix, Bool.or_eq_true, ih]
      constructor
      · rintro (h | ⟨s, hs, ht⟩)
        · exact ⟨c :: cs, List.suffix_rfl, h⟩
        · exact ⟨s, List.suffix_cons_iff.mpr (Or.inr hs), ht⟩
      · rintro ⟨s, hs, ht⟩
        rcases List.suffix_cons_iff.mp hs with rfl | hs
        · exact Or.inl ht
        · exact Or.inr ⟨s, hs, ht⟩

/-- A run takes as much of the text as the rest of the pattern leaves to it. -/
theorem fits_run_cons {p : List Token} {cs : List Char} :
    fits (.run :: p) cs = true ↔ ∃ s, s <:+ cs ∧ fits p s = true := by
  rw [fits]; exact anySuffix_eq_true

/-- A last run takes whatever is left. -/
theorem fits_run (cs : List Char) : fits [.run] cs = true :=
  fits_run_cons.mpr ⟨[], List.nil_suffix, rfl⟩

/-- Letters take their own number of characters, equal to them up to case. -/
theorem fits_letters_append {needle : List Char} {p : List Token} {cs : List Char} :
    fits (needle.map .letter ++ p) cs = true
      ↔ ∃ u v, cs = u ++ v ∧ u.map fold = needle.map fold ∧ fits p v = true := by
  induction needle generalizing cs with
  | nil =>
      constructor
      · exact fun h => ⟨[], cs, rfl, rfl, h⟩
      · rintro ⟨u, v, rfl, hu, hv⟩
        rw [List.map_nil, List.map_eq_nil_iff] at hu
        subst hu; exact hv
  | cons a needle ih =>
      rw [List.map_cons, List.cons_append]
      cases cs with
      | nil =>
          constructor
          · intro h; exact absurd h (by simp [fits])
          · rintro ⟨u, v, huv, hu, _⟩
            rw [(List.append_eq_nil_iff.mp huv.symm).1] at hu
            exact absurd hu (by simp)
      | cons c cs =>
          rw [fits, Bool.and_eq_true, beq_iff_eq, ih]
          constructor
          · rintro ⟨hac, u, v, rfl, hu, hv⟩
            exact ⟨c :: u, v, rfl, by rw [List.map_cons, List.map_cons, hac, hu], hv⟩
          · rintro ⟨u, v, huv, hu, hv⟩
            cases u with
            | nil => exact absurd hu (by simp)
            | cons x u =>
                rw [List.cons_append] at huv
                obtain ⟨rfl, rfl⟩ := List.cons.inj huv
                rw [List.map_cons, List.map_cons] at hu
                obtain ⟨hx, hu⟩ := List.cons.inj hu
                exact ⟨hx.symm, u, v, rfl, hu, hv⟩

/-- Letters before a last run match the texts that start with them, up to case. -/
theorem fits_letters_run {needle cs : List Char} :
    fits (needle.map .letter ++ [.run]) cs = true ↔ needle.map fold <+: cs.map fold := by
  rw [fits_letters_append]
  constructor
  · rintro ⟨u, v, rfl, hu, _⟩
    rw [List.map_append, hu]; exact List.prefix_append _ _
  · rintro ⟨t, ht⟩
    obtain ⟨u, v, rfl, hu, _⟩ := List.map_eq_append_iff.mp ht.symm
    exact ⟨u, v, rfl, hu, fits_run v⟩

/-- Letters alone match the texts that are equal to them up to case. -/
theorem fits_letters {needle cs : List Char} :
    fits (needle.map .letter) cs = true ↔ cs.map fold = needle.map fold := by
  rw [← List.append_nil (needle.map _), fits_letters_append]
  constructor
  · rintro ⟨u, v, rfl, hu, hv⟩
    rw [fits, List.isEmpty_iff] at hv
    rw [hv, List.append_nil, hu]
  · exact fun h => ⟨cs, [], (List.append_nil cs).symm, h, rfl⟩

/-- **The pattern of a needle matches the texts that contain it, up to case.** -/
theorem accepts_containing_of_nul_free {needle : List Char} (h : '\x00' ∉ needle) (text : List Char) :
    accepts (containing needle) text = true
      ↔ needle.map fold <:+: (untilNul text).map fold := by
  rw [accepts, untilNul_containing h, tokens_containing]
  dsimp only
  -- the first run takes what comes before the needle, the last one what comes after it
  rw [fits_run_cons, List.infix_iff_prefix_suffix]
  constructor
  · rintro ⟨s, hs, hf⟩
    exact ⟨s.map fold, fits_letters_run.mp hf, hs.map fold⟩
  · rintro ⟨t, ht, hs⟩
    obtain ⟨w, hw⟩ := hs
    obtain ⟨u, v, huv, _, rfl⟩ := List.map_eq_append_iff.mp hw.symm
    exact ⟨v, ⟨u, huv.symm⟩, fits_letters_run.mpr ht⟩

/-- **Without its last run, the pattern matches the texts that end with what is left of it.** -/
theorem accepts_containing_of_nul {needle : List Char} (h : '\x00' ∈ needle) (text : List Char) :
    accepts (containing needle) text = true
      ↔ (untilNul needle).map fold <:+ (untilNul text).map fold := by
  rw [accepts, tokens_untilNul_containing, if_pos h, List.append_nil]
  dsimp only
  rw [fits_run_cons]
  constructor
  · rintro ⟨s, hs, hf⟩
    rw [← fits_letters.mp hf]
    exact hs.map fold
  · rintro ⟨w, hw⟩
    obtain ⟨u, v, huv, _, hv⟩ := List.map_eq_append_iff.mp hw.symm
    exact ⟨v, ⟨u, huv.symm⟩, fits_letters.mpr hv⟩

/-! ## Reading an escaped text back -/

/-- The character that an element takes, if it is no wildcard. -/
def Token.letter? : Token → Option Char
  | .letter c => some c
  | _ => none

/-- The letters of a pattern. -/
def letters (pattern : List Char) : List Char :=
  ((tokens pattern).getD []).filterMap Token.letter?

theorem tokens_escape (cs : List Char) : tokens (escape cs) = some (cs.map .letter) := by
  have hsplit := tokens_escape_append cs []
  rwa [List.append_nil, show tokens [] = some [] from rfl, Option.map_some, List.append_nil]
    at hsplit

theorem letters_escape (cs : List Char) : letters (escape cs) = cs := by
  rw [letters, tokens_escape, Option.getD_some, List.filterMap_map]
  exact List.filterMap_some

theorem escape_append (cs ds : List Char) : escape (cs ++ ds) = escape cs ++ escape ds :=
  List.flatMap_append

/--
**An escaped text is a pattern of its own characters.** There is no wildcard in it and no
backslash left over, whatever characters it has. So the text can be read back, texts put
together are escaped piece by piece, and where a NUL cuts the pattern of a needle off, the
cut falls behind the pattern of what stands before the NUL.
-/
theorem escape_literal (cs ds : List Char) :
    tokens (escape cs) = some (cs.map .letter)
      ∧ letters (escape cs) = cs
      ∧ (escape cs = escape ds ↔ cs = ds)
      ∧ escape (cs ++ ds) = escape cs ++ escape ds
      ∧ ('\x00' ∈ cs →
        untilNul ('%' :: (escape cs ++ ['%'])) = '%' :: escape (untilNul cs)
          ∧ tokens ('%' :: escape (untilNul cs))
            = some (.run :: (untilNul cs).map .letter)) := by
  refine ⟨tokens_escape cs, letters_escape cs, ⟨fun h => ?_, congrArg escape⟩,
    escape_append cs ds, fun h => ⟨untilNul_containing_of_nul h, ?_⟩⟩
  · calc cs = letters (escape cs) := (letters_escape cs).symm
      _ = letters (escape ds) := congrArg letters h
      _ = ds := letters_escape ds
  · rw [tokens_percent_cons, tokens_escape]
    rfl

/-- A backslash before a wildcard and one before the NUL. -/
theorem escape_literal_backslashes :
    let cs := "\\%\\\x00_".toList
    tokens (escape cs) = some (cs.map .letter)
      ∧ untilNul ('%' :: (escape cs ++ ['%'])) = "%\\\\\\%\\\\".toList := by
  intro cs
  exact ⟨(escape_literal cs []).1, ((escape_literal cs []).2.2.2.2 (by decide)).1.trans (by decide)⟩

end DashIndex.Text.Like
