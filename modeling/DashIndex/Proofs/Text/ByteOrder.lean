import DashIndex.Text.NoCase

/-!
# The order of code points is the order of bytes

Tags and names are compared character by character, and what they are compared
with elsewhere is their UTF-8 bytes. The encoding was made so that the two
agree: a greater code point has the greater bytes. A longer encoding starts with
a greater byte, and two encodings of one length differ first where the code
points, cut into groups of six bits, differ first.
-/

namespace DashIndex.Text

/-! ## One character -/

theorem toNat_ofNat_of_lt {n : Nat} (h : n < 256) : (UInt8.ofNat n).toNat = n := by
  rw [UInt8.toNat_ofNat']; exact Nat.mod_eq_of_lt h

/-- Bytes are compared one after the other; a tie is left to those that follow. -/
theorem ofNat_cons_lt {m n : Nat} {u v : List UInt8} (hn : n < 256) (hle : m ≤ n)
    (h : m = n → u < v) : UInt8.ofNat m :: u < UInt8.ofNat n :: v := by
  rw [List.cons_lt_cons_iff]
  rcases Nat.lt_or_eq_of_le hle with hlt | heq
  · left
    rwa [UInt8.lt_iff_toNat_lt, toNat_ofNat_of_lt (Nat.lt_trans hlt hn), toNat_ofNat_of_lt hn]
  · exact Or.inr ⟨congrArg UInt8.ofNat heq, h heq⟩

theorem ofNat_cons_lt_of_lt {m n : Nat} {u v : List UInt8} (hn : n < 256) (h : m < n) :
    UInt8.ofNat m :: u < UInt8.ofNat n :: v :=
  ofNat_cons_lt hn (Nat.le_of_lt h) fun heq => absurd heq (Nat.ne_of_lt h)

/-- The lesser of two characters has the lesser bytes, whatever follows them. -/
theorem utf8EncodeChar_append_lt {c d : Char} (h : c < d) (u v : List UInt8) :
    String.utf8EncodeChar c ++ u < String.utf8EncodeChar d ++ v := by
  have hcd : c.val.toNat < d.val.toNat := h
  have hd : d.val.toNat < 0x110000 := by
    rcases d.valid with h | h
    · omega
    · exact h.2
  unfold String.utf8EncodeChar
  generalize c.val.toNat = m at *
  generalize d.val.toNat = n at *
  dsimp only
  -- the first byte tells encodings of different length apart; those of one length differ in
  -- the first group of six bits in which the code points do
  split
  · split
    · exact ofNat_cons_lt_of_lt (by omega) hcd
    · split
      · exact ofNat_cons_lt_of_lt (by omega) (by omega)
      · split
        · exact ofNat_cons_lt_of_lt (by omega) (by omega)
        · exact ofNat_cons_lt_of_lt (by omega) (by omega)
  · rw [if_neg (show ¬ n ≤ 0x7f by omega)]
    split
    · split
      · refine ofNat_cons_lt (by omega) (by omega) fun h1 => ?_
        exact ofNat_cons_lt_of_lt (by omega) (by omega)
      · split
        · exact ofNat_cons_lt_of_lt (by omega) (by omega)
        · exact ofNat_cons_lt_of_lt (by omega) (by omega)
    · rw [if_neg (show ¬ n ≤ 0x7ff by omega)]
      split
      · split
        · refine ofNat_cons_lt (by omega) (by omega) fun h1 => ?_
          refine ofNat_cons_lt (by omega) (by omega) fun h2 => ?_
          exact ofNat_cons_lt_of_lt (by omega) (by omega)
        · exact ofNat_cons_lt_of_lt (by omega) (by omega)
      · rw [if_neg (show ¬ n ≤ 0xffff by omega)]
        refine ofNat_cons_lt (by omega) (by omega) fun h1 => ?_
        refine ofNat_cons_lt (by omega) (by omega) fun h2 => ?_
        refine ofNat_cons_lt (by omega) (by omega) fun h3 => ?_
        exact ofNat_cons_lt_of_lt (by omega) (by omega)

/-! ## A whole text -/

theorem flatMap_utf8EncodeChar_lt {cs ds : List Char} (h : cs < ds) :
    cs.flatMap String.utf8EncodeChar < ds.flatMap String.utf8EncodeChar := by
  induction cs generalizing ds with
  | nil =>
      cases ds with
      | nil => exact absurd h (List.not_lt_nil [])
      | cons d ds =>
          rw [List.flatMap_nil, List.flatMap_cons]
          cases hd : String.utf8EncodeChar d with
          | nil => exact absurd hd String.utf8EncodeChar_ne_nil
          | cons b bs => exact List.nil_lt_cons b _
  | cons c cs ih =>
      cases ds with
      | nil => exact absurd h (List.not_lt_nil _)
      | cons d ds =>
          rw [List.flatMap_cons, List.flatMap_cons]
          rcases List.cons_lt_cons_iff.mp h with hcd | ⟨rfl, hcs⟩
          · exact utf8EncodeChar_append_lt hcd _ _
          · exact List.append_left_lt (ih hcs)

/-- **Texts are ordered as their bytes are.** -/
theorem lt_iff_bytes_lt {s t : String} : s < t ↔ NoCase.bytes s < NoCase.bytes t := by
  have mono : ∀ {s t : String}, s < t → NoCase.bytes s < NoCase.bytes t :=
    fun h => flatMap_utf8EncodeChar_lt h
  refine ⟨mono, fun h => ?_⟩
  by_cases hst : s < t
  · exact hst
  · exfalso
    by_cases he : s = t
    · subst he; exact List.lt_irrefl _ h
    · have hts : t < s := by
        rw [← String.not_le]
        exact fun hle => he (String.le_antisymm hle (String.not_lt.mp hst))
      exact List.lt_asymm (mono hts) h

end DashIndex.Text
