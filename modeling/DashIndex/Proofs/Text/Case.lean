import DashIndex.Proofs.Text.Like
import DashIndex.Proofs.Text.NoCase
import DashIndex.Text.Blank
import Mathlib.Data.List.Basic

/-!
# The case of ASCII letters

Case is dropped in two places. A pattern is matched letter by letter, each folded
as a character; titles are ordered byte by byte, each folded as a byte. The two
agree, because an ASCII letter is one byte and no byte of any other character is
folded.

Everything else that looks at a text looks for certain characters: blanks, NUL, the
marks of a pattern. None of these is a letter, so a folded text is trimmed, cut,
escaped and split as the text itself is.
-/

namespace DashIndex.Text

/-- The text with its ASCII letters in lower case. -/
def lower (s : String) : String := String.ofList (s.toList.map Like.fold)

theorem toList_lower (s : String) : (lower s).toList = s.toList.map Like.fold :=
  String.toList_ofList

theorem lower_ofList (cs : List Char) :
    lower (String.ofList cs) = String.ofList (cs.map Like.fold) := by
  rw [lower, String.toList_ofList]

namespace Like

/-- **Folding moves the upper case letters and nothing else.** -/
theorem fold_cases (c : Char) :
    (65 ≤ c.toNat ∧ c.toNat ≤ 90 ∧ (fold c).toNat = c.toNat + 32)
      ∨ (¬ (65 ≤ c.toNat ∧ c.toNat ≤ 90) ∧ fold c = c) := by
  unfold fold Char.toLower
  split
  · rename_i h
    obtain ⟨h1, h2⟩ : 65 ≤ c.toNat ∧ c.toNat ≤ 90 := h
    refine Or.inl ⟨h1, h2, ?_⟩
    show (c.val + 32).toNat = c.toNat + 32
    rw [UInt32.toNat_add]
    exact Nat.mod_eq_of_lt (by simp only [UInt32.reduceToNat, Char.toNat_val]; omega)
  · rename_i h
    exact Or.inr ⟨h, rfl⟩

theorem fold_fold (c : Char) : fold (fold c) = fold c := by
  rcases fold_cases c with ⟨h1, h2, hc⟩ | ⟨_, hc⟩
  · rcases fold_cases (fold c) with ⟨_, h3, _⟩ | ⟨_, hf⟩
    · omega
    · exact hf
  · rw [hc, hc]

theorem isAlpha_iff {c : Char} :
    c.isAlpha = true ↔ (65 ≤ c.toNat ∧ c.toNat ≤ 90) ∨ (97 ≤ c.toNat ∧ c.toNat ≤ 122) := by
  have hupper : c.isUpper = true ↔ 65 ≤ c.toNat ∧ c.toNat ≤ 90 := decide_eq_true_iff
  have hlower : c.isLower = true ↔ 97 ≤ c.toNat ∧ c.toNat ≤ 122 :=
    (Bool.and_eq_true _ _).to_iff.trans (and_congr decide_eq_true_iff decide_eq_true_iff)
  rw [← hupper, ← hlower, ← Bool.or_eq_true]
  rfl

/-- A test that no letter passes does not see case. -/
theorem test_fold {p : Char → Bool} (hp : ∀ c, c.isAlpha = true → p c = false) (c : Char) :
    p (fold c) = p c := by
  rcases fold_cases c with ⟨h1, h2, hc⟩ | ⟨_, hc⟩
  · have hletter : c.isAlpha = true := isAlpha_iff.mpr (Or.inl ⟨h1, h2⟩)
    have hfolded : (fold c).isAlpha = true := isAlpha_iff.mpr (Or.inr (by omega))
    rw [hp c hletter, hp _ hfolded]
  · rw [hc]

/-- Only the character itself folds to one that is no letter. -/
theorem fold_eq_iff {c d : Char} (hd : d.isAlpha = false) : fold c = d ↔ c = d := by
  have h : (fold c == d) = (c == d) := by
    refine test_fold (p := (· == d)) (fun x hx => ?_) c
    rw [beq_eq_false_iff_ne]
    rintro rfl
    rw [hx] at hd
    exact Bool.noConfusion hd
  rw [← beq_iff_eq, h, beq_iff_eq]

end Like

/-! ## Trimming -/

theorem isBlank_fold (c : Char) : isBlank (Like.fold c) = isBlank c := by
  refine Like.test_fold (fun c hc => ?_) c
  have hletter := Like.isAlpha_iff.mp hc
  simp only [isBlank, Bool.or_eq_false_iff, Bool.and_eq_false_iff, decide_eq_false_iff_not,
    beq_eq_false_iff_ne]
  omega

theorem trim_map_fold (cs : List Char) : trim (cs.map Like.fold) = (trim cs).map Like.fold := by
  have hblank : isBlank ∘ Like.fold = isBlank := funext isBlank_fold
  rw [trim, trim, trimEnd, trimEnd, List.dropWhile_map, hblank, ← List.map_reverse,
    List.dropWhile_map, hblank, List.map_reverse]

namespace Like

/-! ## Patterns -/

theorem untilNul_map_fold (cs : List Char) :
    untilNul (cs.map fold) = (untilNul cs).map fold := by
  have hnul : (· != '\x00') ∘ fold = (· != '\x00') := by
    funext c
    show (fold c != '\x00') = (c != '\x00')
    rw [bne, bne, Bool.not_inj_iff, Bool.eq_iff_iff, beq_iff_eq, beq_iff_eq]
    exact fold_eq_iff rfl
  rw [untilNul, List.takeWhile_map, hnul, untilNul]

theorem isSpecial_fold (c : Char) : isSpecial (fold c) = isSpecial c := by
  refine test_fold (fun c hc => ?_) c
  simp only [isSpecial, Bool.or_eq_false_iff, beq_eq_false_iff_ne]
  refine ⟨⟨?_, ?_⟩, ?_⟩ <;>
    · rintro rfl
      exact absurd hc (by decide)

theorem escape_map_fold (cs : List Char) : escape (cs.map fold) = (escape cs).map fold := by
  induction cs with
  | nil => rfl
  | cons c cs ih =>
      rw [List.map_cons, escape_cons, escape_cons, isSpecial_fold, ih, List.map_append]
      split <;> rfl

theorem containing_map_fold (cs : List Char) :
    containing (cs.map fold) = (containing cs).map fold := by
  rw [containing, containing, escape_map_fold, List.map_cons, List.map_append]
  rfl

/-- The element of a folded pattern. -/
def Token.fold : Token → Token
  | .run => .run
  | .one => .one
  | .letter c => .letter (Like.fold c)

theorem Token.ofChar_fold (c : Char) : Token.ofChar (Like.fold c) = (Token.ofChar c).fold := by
  have hpercent : Like.fold c = '%' ↔ c = '%' := fold_eq_iff rfl
  have hunder : Like.fold c = '_' ↔ c = '_' := fold_eq_iff rfl
  unfold Token.ofChar
  simp only [hpercent, hunder]
  split
  · rfl
  · split <;> rfl

theorem tokensFrom_map_fold (escaped : Bool) (cs : List Char) :
    tokensFrom escaped (cs.map fold) = (tokensFrom escaped cs).map (List.map Token.fold) := by
  induction cs generalizing escaped with
  | nil => cases escaped <;> rfl
  | cons c cs ih =>
      have hback : fold c = '\\' ↔ c = '\\' := fold_eq_iff rfl
      rw [List.map_cons, tokensFrom, tokensFrom]
      simp only [hback, ih, Token.ofChar_fold]
      split
      · cases tokensFrom false cs <;> rfl
      · split
        · rfl
        · cases tokensFrom false cs <;> rfl

theorem anySuffix_map_fold {test test' : List Char → Bool}
    (h : ∀ cs : List Char, test' (cs.map fold) = test cs) (cs : List Char) :
    anySuffix test' (cs.map fold) = anySuffix test cs := by
  induction cs with
  | nil => exact h []
  | cons c cs ih =>
      rw [List.map_cons, anySuffix, anySuffix, ih, ← List.map_cons, h]

theorem fits_map_fold (ts : List Token) (cs : List Char) :
    fits (ts.map Token.fold) (cs.map fold) = fits ts cs := by
  induction ts generalizing cs with
  | nil => cases cs <;> rfl
  | cons t ts ih =>
      cases t with
      | run => exact anySuffix_map_fold ih cs
      | one =>
          cases cs with
          | nil => rfl
          | cons c cs => exact ih cs
      | letter a =>
          cases cs with
          | nil => rfl
          | cons c cs =>
              show (fold (fold a) == fold (fold c) && fits (ts.map Token.fold) (cs.map fold))
                = (fold a == fold c && fits ts cs)
              rw [fold_fold, fold_fold, ih]

/-- **A folded pattern accepts of the folded texts what the pattern accepts of the texts.** -/
theorem accepts_map_fold (pattern text : List Char) :
    accepts (pattern.map fold) (text.map fold) = accepts pattern text := by
  have htokens : tokens (untilNul (pattern.map fold))
      = (tokens (untilNul pattern)).map (List.map Token.fold) := by
    rw [untilNul_map_fold]
    exact tokensFrom_map_fold false _
  rw [accepts, accepts, htokens, untilNul_map_fold]
  cases tokens (untilNul pattern) with
  | none => rfl
  | some ts => exact fits_map_fold ts _

end Like

/-! ## Bytes -/

namespace NoCase

theorem fold_of_not_upper {b : UInt8} (h : ¬ (65 ≤ b.toNat ∧ b.toNat ≤ 90)) : fold b = b := by
  rw [fold, if_neg]
  rw [Bool.and_eq_true, decide_eq_true_eq, decide_eq_true_eq, UInt8.le_iff_toNat_le,
    UInt8.le_iff_toNat_le]
  exact h

theorem fold_of_upper {n : Nat} (h1 : 65 ≤ n) (h2 : n ≤ 90) :
    fold (UInt8.ofNat n) = UInt8.ofNat (n + 32) := by
  have hn : (UInt8.ofNat n).toNat = n := by
    rw [UInt8.toNat_ofNat']
    omega
  rw [fold, if_pos]
  · rw [UInt8.ofNat_add]
    rfl
  · rw [Bool.and_eq_true, decide_eq_true_eq, decide_eq_true_eq, UInt8.le_iff_toNat_le,
      UInt8.le_iff_toNat_le, hn]
    exact ⟨h1, h2⟩

theorem utf8EncodeChar_of_ascii {c : Char} (h : c.toNat ≤ 127) :
    String.utf8EncodeChar c = [UInt8.ofNat c.toNat] := by
  rw [String.utf8EncodeChar]
  exact if_pos h

/-- The bytes of a character beyond ASCII are all beyond ASCII. -/
theorem le_of_mem_utf8EncodeChar {c : Char} (h : 127 < c.toNat) {b : UInt8}
    (hb : b ∈ String.utf8EncodeChar c) : 127 < b.toNat := by
  have high : ∀ m k : Nat, 128 ≤ k → m + k < 256 → 127 < (UInt8.ofNat (m + k)).toNat := by
    intro m k hk hlt
    rw [UInt8.toNat_ofNat']
    omega
  unfold String.utf8EncodeChar at hb
  dsimp only at hb
  rw [if_neg (show ¬ c.val.toNat ≤ 127 from Nat.not_le.mpr h)] at hb
  generalize c.val.toNat = n at hb
  -- two, three or four bytes, the first with a mark of the length, the others with one of their own
  split at hb
  · simp only [List.mem_cons, List.not_mem_nil, or_false] at hb
    rcases hb with rfl | rfl <;> exact high _ _ (by omega) (by omega)
  · split at hb
    · simp only [List.mem_cons, List.not_mem_nil, or_false] at hb
      rcases hb with rfl | rfl | rfl <;> exact high _ _ (by omega) (by omega)
    · simp only [List.mem_cons, List.not_mem_nil, or_false] at hb
      rcases hb with rfl | rfl | rfl | rfl <;> exact high _ _ (by omega) (by omega)

/-- **The bytes of a folded character are its folded bytes.** -/
theorem utf8EncodeChar_fold (c : Char) :
    String.utf8EncodeChar (Like.fold c) = (String.utf8EncodeChar c).map fold := by
  rcases Like.fold_cases c with ⟨h1, h2, hc⟩ | ⟨hupper, hc⟩
  · rw [utf8EncodeChar_of_ascii (c := c) (by omega), utf8EncodeChar_of_ascii (by omega), hc,
      List.map_singleton, fold_of_upper h1 h2]
  · have hkept : ∀ b ∈ String.utf8EncodeChar c, fold b = b := by
      intro b hb
      refine fold_of_not_upper ?_
      rcases Nat.lt_or_ge 127 c.toNat with h | h
      · have := le_of_mem_utf8EncodeChar h hb
        omega
      · rw [utf8EncodeChar_of_ascii h, List.mem_singleton] at hb
        have hbyte : b.toNat = c.toNat := by
          rw [hb, UInt8.toNat_ofNat']
          omega
        rwa [hbyte]
    rw [hc, List.map_congr_left hkept, List.map_id']

theorem bytes_lower (s : String) : bytes (lower s) = (bytes s).map fold := by
  rw [bytes, bytes, toList_lower, List.flatMap_map, List.map_flatMap]
  exact List.flatMap_congr fun c _ => utf8EncodeChar_fold c

theorem fold_fold (b : UInt8) : fold (fold b) = fold b := by
  by_cases h : 65 ≤ b.toNat ∧ b.toNat ≤ 90
  · have hb : fold b = UInt8.ofNat (b.toNat + 32) := by
      rw [← fold_of_upper h.1 h.2, UInt8.ofNat_toNat]
    refine fold_of_not_upper ?_
    rw [hb, UInt8.toNat_ofNat']
    omega
  · rw [fold_of_not_upper h, fold_of_not_upper h]

theorem foldedHead_map_fold (bs : List UInt8) : foldedHead (bs.map fold) = foldedHead bs := by
  induction bs with
  | nil => rfl
  | cons b bs ih =>
      by_cases hb : b = 0
      · subst hb
        rw [List.map_cons, fold_zero, foldedHead_zero_cons, foldedHead_zero_cons]
      · rw [List.map_cons, foldedHead_cons (fold_ne_zero hb), foldedHead_cons hb, fold_fold, ih]

/-- **A title has the key and the length of its folded form.** -/
theorem titleKey_lower (s : String) : titleKey (lower s) = titleKey s := by
  rw [titleKey, titleKey, bytes_lower, foldedHead_map_fold]

theorem byteLength_lower (s : String) : byteLength (lower s) = byteLength s := by
  rw [byteLength, byteLength, bytes_lower, List.length_map]

end NoCase

/-- Case does not change how many bytes a text has. -/
theorem utf8ByteSize_lower (s : String) : (lower s).utf8ByteSize = s.utf8ByteSize := by
  have hchar : ∀ c : Char, (Like.fold c).utf8Size = c.utf8Size := by
    intro c
    rw [← String.length_utf8EncodeChar, NoCase.utf8EncodeChar_fold, List.length_map,
      String.length_utf8EncodeChar]
  obtain ⟨cs, rfl⟩ : ∃ cs, s = String.ofList cs := ⟨s.toList, String.ofList_toList.symm⟩
  rw [lower_ofList]
  induction cs with
  | nil => rfl
  | cons c cs ih =>
      rw [List.map_cons, String.ofList_cons, String.ofList_cons, String.utf8ByteSize_append,
        String.utf8ByteSize_append, String.utf8ByteSize_singleton, String.utf8ByteSize_singleton,
        hchar, ih]

end DashIndex.Text
