import DashIndex.Text.Integer

/-!
# What a numeral reads as

A numeral is digits, perhaps after a plus sign, and stands for a number of any
size. Its digits are read onto a running value that never shrinks, so the reading
fails at some digit if and only if the number itself is out of bounds; which digit
that is does not matter. In particular a number within the bounds is read back from
the text that it is written as.

The same fact tells what every other text reads as. Digits beyond the bounds are
reported before whatever follows them, and digits within the bounds lead on to the first
character that is none.
-/

namespace DashIndex.Text

/-- The number that a value and the digits after it stand for. -/
def decimalFrom (n : Nat) (ds : List Char) : Nat :=
  ds.foldl (fun n d => n * 10 + (d.toNat - '0'.toNat)) n

/-- A numeral and the number that it stands for. -/
def IsNumeral (text : String) (n : Nat) : Prop :=
  ∃ ds, ds ≠ [] ∧ (∀ d ∈ ds, d.isDigit = true) ∧ (text.toList = ds ∨ text.toList = '+' :: ds)
    ∧ decimalFrom 0 ds = n

theorem le_decimalFrom (n : Nat) (ds : List Char) : n ≤ decimalFrom n ds := by
  induction ds generalizing n with
  | nil => exact Nat.le_refl n
  | cons d ds ih =>
      have hstep := ih (n * 10 + (d.toNat - '0'.toNat))
      have hcons : decimalFrom n (d :: ds) = decimalFrom (n * 10 + (d.toNat - '0'.toNat)) ds := rfl
      omega

/-- A number with a sign. -/
def signed (negative : Bool) (n : Nat) : Int := if negative then -(n : Int) else n

theorem signed_zero (negative : Bool) : signed negative 0 = 0 := by cases negative <;> rfl

/-- The error of a number that is out of bounds on its side of zero. -/
def IntegerError.beyond (negative : Bool) : IntegerError :=
  if negative then .tooSmall else .tooLarge

/--
**Digits are read on if the number that they stand for is within the bounds.** If it is
not, the reading ends among them, whatever comes after them.
-/
theorem readDigits_append {lo hi : Int} (hlo : lo ≤ 0) (hhi : 0 ≤ hi) (negative : Bool)
    {ds : List Char} (hds : ∀ d ∈ ds, d.isDigit = true) (rest : List Char) {n : Nat}
    (hn : lo ≤ signed negative n ∧ signed negative n ≤ hi) :
    readDigits lo hi negative (signed negative n) (ds ++ rest)
      = if lo ≤ signed negative (decimalFrom n ds) ∧ signed negative (decimalFrom n ds) ≤ hi then
          readDigits lo hi negative (signed negative (decimalFrom n ds)) rest
        else .error (.beyond negative) := by
  induction ds generalizing n with
  | nil => exact (if_pos hn).symm
  | cons d ds ih =>
      have hd : digitValue? d = some (d.toNat - '0'.toNat) := by
        rw [digitValue?, if_pos (hds d List.mem_cons_self)]
      have hrest : ∀ x ∈ ds, x.isDigit = true := fun x hx => hds x (List.mem_cons_of_mem _ hx)
      have hcons : decimalFrom n (d :: ds) = decimalFrom (n * 10 + (d.toNat - '0'.toNat)) ds := rfl
      rw [List.cons_append, readDigits, hd, hcons]
      dsimp only
      generalize d.toNat - '0'.toNat = v
      have hnext : (if negative = true then signed negative n * 10 - (v : Int)
          else signed negative n * 10 + (v : Int)) = signed negative (n * 10 + v) := by
        cases negative with
        | false =>
            simp only [signed, Bool.false_eq_true, if_false]
            omega
        | true =>
            simp only [signed, if_true]
            omega
      rw [hnext]
      by_cases hin : lo ≤ signed negative (n * 10 + v) ∧ signed negative (n * 10 + v) ≤ hi
      · rw [if_neg (by omega), if_neg (by omega)]
        exact ih hrest hin
      · -- the value only grows away from zero, so the number is out of bounds too
        have hgrow := le_decimalFrom (n * 10 + v) ds
        cases negative with
        | false =>
            simp only [signed, Bool.false_eq_true, if_false] at hin ⊢
            rw [if_pos (by omega), if_neg (by omega)]
            rfl
        | true =>
            simp only [signed, if_true] at hin ⊢
            rw [if_neg (by omega), if_pos (by omega), if_neg (by omega)]
            rfl

/-- **Digits are read to the end if and only if the number is within the bounds.** -/
theorem readDigits_of_isDigit {lo hi : Int} (hlo : lo ≤ 0) {ds : List Char}
    (hds : ∀ d ∈ ds, d.isDigit = true) {n : Nat} (hn : (n : Int) ≤ hi) :
    readDigits lo hi false n ds
      = if (decimalFrom n ds : Int) ≤ hi then .ok (decimalFrom n ds) else .error .tooLarge := by
  have hread := readDigits_append hlo (Int.le_trans (Int.natCast_nonneg n) hn) false hds []
    ⟨Int.le_trans hlo (Int.natCast_nonneg n), hn⟩
  rw [List.append_nil] at hread
  by_cases hle : (decimalFrom n ds : Int) ≤ hi
  · rw [if_pos hle]
    exact hread.trans (if_pos ⟨Int.le_trans hlo (Int.natCast_nonneg _), hle⟩)
  · rw [if_neg hle]
    exact hread.trans (if_neg fun hin => hle hin.2)

/-- The same below zero. -/
theorem readDigits_negative_of_isDigit {lo hi : Int} (hhi : 0 ≤ hi) {ds : List Char}
    (hds : ∀ d ∈ ds, d.isDigit = true) {n : Nat} (hn : lo ≤ -(n : Int)) :
    readDigits lo hi true (-(n : Int)) ds
      = if lo ≤ -(decimalFrom n ds : Int) then .ok (-(decimalFrom n ds : Int))
        else .error .tooSmall := by
  have hread := readDigits_append (show lo ≤ 0 by omega) hhi true hds []
    ⟨hn, show -(n : Int) ≤ hi by omega⟩
  rw [List.append_nil] at hread
  by_cases hle : lo ≤ -(decimalFrom n ds : Int)
  · rw [if_pos hle]
    exact hread.trans (if_pos ⟨hle, show -(decimalFrom n ds : Int) ≤ hi by omega⟩)
  · rw [if_neg hle]
    exact hread.trans (if_neg fun hin => hle hin.1)

theorem not_sign_of_isDigit {d : Char} (h : d.isDigit = true) : d ≠ '+' ∧ d ≠ '-' := by
  constructor
  · rintro rfl; exact absurd h (by decide)
  · rintro rfl; exact absurd h (by decide)

/-- A numeral reads as its number if that is within the bounds, and is too large else. -/
theorem readInteger_of_isNumeral {lo hi : Int} (hlo : lo ≤ 0) (hhi : 0 ≤ hi) {text : String}
    {n : Nat} (h : IsNumeral text n) :
    readInteger lo hi text.toList = if (n : Int) ≤ hi then .ok (n : Int) else .error .tooLarge := by
  obtain ⟨ds, hne, hds, htext, rfl⟩ := h
  have hdigits : readDigits lo hi false 0 ds
      = if (decimalFrom 0 ds : Int) ≤ hi then .ok (decimalFrom 0 ds : Int)
        else .error .tooLarge :=
    readDigits_of_isDigit hlo hds hhi
  rw [← hdigits]
  cases ds with
  | nil => exact absurd rfl hne
  | cons d ds =>
      rcases htext with htext | htext
      · have hd := not_sign_of_isDigit (hds d List.mem_cons_self)
        rw [htext, readInteger, if_neg (by simp [hd.1, hd.2]), if_neg hd.1,
          if_neg (by simp [hd.2])]
      · rw [htext, readInteger, if_neg (by simp), if_pos rfl]

theorem readInt64_of_isNumeral {text : String} {n : Nat} (h : IsNumeral text n) :
    readInt64 text = if (n : Int) ≤ maxInt64 then .ok (n : Int) else .error .tooLarge :=
  readInteger_of_isNumeral (by decide) (by decide) h

/-! ## Texts of every kind -/

/-- A text, whether it has a minus sign, and what follows its sign if it has one. -/
inductive SplitsSign : List Char → Bool → List Char → Prop where
  | plus (cs : List Char) : SplitsSign ('+' :: cs) false cs
  | minus (cs : List Char) : SplitsSign ('-' :: cs) true cs
  | bare {cs : List Char} :
      cs.head? ≠ some '+' → cs.head? ≠ some '-' → SplitsSign cs false cs

theorem exists_splitsSign (cs : List Char) : ∃ negative rest, SplitsSign cs negative rest := by
  by_cases hplus : cs.head? = some '+'
  · obtain ⟨rest, rfl⟩ := List.head?_eq_some_iff.mp hplus
    exact ⟨false, rest, .plus rest⟩
  · by_cases hminus : cs.head? = some '-'
    · obtain ⟨rest, rfl⟩ := List.head?_eq_some_iff.mp hminus
      exact ⟨true, rest, .minus rest⟩
    · exact ⟨false, cs, .bare hplus hminus⟩

/--
What a text reads as between two bounds. An offending character counts only if the
digits before it are within the bounds, and digits beyond the bounds count whatever
comes after them, so no text is of two kinds.
-/
inductive Reads (lo hi : Int) : List Char → Except IntegerError Int → Prop where
  | nothing : Reads lo hi [] (.error .empty)
  | loneSign {c : Char} : c = '+' ∨ c = '-' → Reads lo hi [c] (.error .invalidDigit)
  | number {cs ds : List Char} {negative : Bool} :
      SplitsSign cs negative ds → ds ≠ [] → (∀ d ∈ ds, d.isDigit = true) →
      lo ≤ signed negative (decimalFrom 0 ds) ∧ signed negative (decimalFrom 0 ds) ≤ hi →
      Reads lo hi cs (.ok (signed negative (decimalFrom 0 ds)))
  | offending {cs ds rest : List Char} {negative : Bool} {c : Char} :
      SplitsSign cs negative (ds ++ c :: rest) → (∀ d ∈ ds, d.isDigit = true) →
      c.isDigit = false →
      lo ≤ signed negative (decimalFrom 0 ds) ∧ signed negative (decimalFrom 0 ds) ≤ hi →
      Reads lo hi cs (.error .invalidDigit)
  | tooLarge {cs ds rest : List Char} :
      SplitsSign cs false (ds ++ rest) → (∀ d ∈ ds, d.isDigit = true) →
      hi < signed false (decimalFrom 0 ds) → Reads lo hi cs (.error .tooLarge)
  | tooSmall {cs ds rest : List Char} :
      SplitsSign cs true (ds ++ rest) → (∀ d ∈ ds, d.isDigit = true) →
      signed true (decimalFrom 0 ds) < lo → Reads lo hi cs (.error .tooSmall)

/-- What follows the sign is read as digits. -/
theorem readInteger_of_splitsSign {lo hi : Int} (hlo : lo < 0) {cs rest : List Char}
    {negative : Bool} (h : SplitsSign cs negative rest) (hrest : rest ≠ []) :
    readInteger lo hi cs = readDigits lo hi negative 0 rest := by
  cases h with
  | plus => rw [readInteger, if_neg (by simp [hrest]), if_pos rfl]
  | minus => rw [readInteger, if_neg (by simp [hrest]), if_neg (by decide), if_pos ⟨rfl, hlo⟩]
  | bare hplus hminus =>
      obtain ⟨c, ds, rfl⟩ := List.exists_cons_of_ne_nil hrest
      rw [List.head?_cons, ne_eq, Option.some_inj] at hplus hminus
      rw [readInteger, if_neg (by simp [hplus, hminus]), if_neg hplus, if_neg (by simp [hminus])]

theorem readInteger_of_reads {lo hi : Int} (hlo : lo < 0) (hhi : 0 ≤ hi) {cs : List Char}
    {r : Except IntegerError Int} (h : Reads lo hi cs r) : readInteger lo hi cs = r := by
  have hzero (negative : Bool) : lo ≤ signed negative 0 ∧ signed negative 0 ≤ hi := by
    rw [signed_zero]
    omega
  have hdigits {cs ds rest : List Char} {negative : Bool}
      (hsplit : SplitsSign cs negative (ds ++ rest)) (hne : ds ++ rest ≠ [])
      (hds : ∀ d ∈ ds, d.isDigit = true) :
      readInteger lo hi cs
        = if lo ≤ signed negative (decimalFrom 0 ds) ∧ signed negative (decimalFrom 0 ds) ≤ hi then
            readDigits lo hi negative (signed negative (decimalFrom 0 ds)) rest
          else .error (.beyond negative) := by
    have hread := readDigits_append (Int.le_of_lt hlo) hhi negative hds rest (hzero negative)
    rw [signed_zero] at hread
    rw [readInteger_of_splitsSign hlo hsplit hne, hread]
  -- no digits at all stand for zero, which is within the bounds
  have hbeyond {cs ds rest : List Char} {negative : Bool}
      (hsplit : SplitsSign cs negative (ds ++ rest)) (hds : ∀ d ∈ ds, d.isDigit = true)
      (hout : ¬ (lo ≤ signed negative (decimalFrom 0 ds)
        ∧ signed negative (decimalFrom 0 ds) ≤ hi)) :
      readInteger lo hi cs = .error (.beyond negative) := by
    have hne : ds ++ rest ≠ [] := by
      intro hnil
      rw [(List.append_eq_nil_iff.mp hnil).1] at hout
      exact hout (hzero negative)
    rw [hdigits hsplit hne hds, if_neg hout]
  cases h with
  | nothing => rfl
  | loneSign hc => exact if_pos ⟨rfl, hc⟩
  | @number _ ds _ hsplit hne hds hin =>
      rw [← List.append_nil ds] at hsplit hne
      rw [hdigits hsplit hne hds, if_pos hin, readDigits]
  | offending hsplit hds hc hin =>
      rw [hdigits hsplit (by simp) hds, if_pos hin, readDigits, digitValue?, hc]
      rfl
  | tooLarge hsplit hds hout => exact hbeyond hsplit hds (by omega)
  | tooSmall hsplit hds hout => exact hbeyond hsplit hds (by omega)

/-- Every text is of one of the kinds: it splits after its digits. -/
theorem exists_reads (lo hi : Int) (hlo : lo ≤ 0) (hhi : 0 ≤ hi) (cs : List Char) :
    ∃ r, Reads lo hi cs r := by
  obtain ⟨negative, body, hsplit⟩ := exists_splitsSign cs
  obtain ⟨ds, rest, hbody, hds, hrest⟩ : ∃ ds rest, body = ds ++ rest
      ∧ (∀ d ∈ ds, d.isDigit = true) ∧ ∀ c ∈ rest.head?, c.isDigit = false := by
    refine ⟨_, _, List.takeWhile_append_dropWhile.symm,
      fun d hd => List.all_eq_true.mp List.all_takeWhile d hd, fun c hc => ?_⟩
    have hnot := List.head?_dropWhile_not Char.isDigit body
    rw [Option.mem_def.mp hc] at hnot
    simpa using hnot
  subst hbody
  by_cases hin : lo ≤ signed negative (decimalFrom 0 ds)
      ∧ signed negative (decimalFrom 0 ds) ≤ hi
  · cases rest with
    | cons c rest => exact ⟨_, .offending hsplit hds (hrest c rfl) hin⟩
    | nil =>
        rw [List.append_nil] at hsplit
        by_cases hne : ds = []
        · subst hne
          cases hsplit with
          | plus => exact ⟨_, .loneSign (Or.inl rfl)⟩
          | minus => exact ⟨_, .loneSign (Or.inr rfl)⟩
          | bare => exact ⟨_, .nothing⟩
        · exact ⟨_, .number hsplit hne hds hin⟩
  · cases negative with
    | false =>
        refine ⟨_, .tooLarge hsplit hds ?_⟩
        simp only [signed, Bool.false_eq_true, if_false] at hin ⊢
        omega
    | true =>
        refine ⟨_, .tooSmall hsplit hds ?_⟩
        simp only [signed, if_true] at hin ⊢
        omega

/-- **A text reads as what is said of its kind, and as nothing else.** -/
theorem readInteger_eq_iff {lo hi : Int} (hlo : lo < 0) (hhi : 0 ≤ hi) {cs : List Char}
    {r : Except IntegerError Int} : readInteger lo hi cs = r ↔ Reads lo hi cs r := by
  refine ⟨fun h => ?_, readInteger_of_reads hlo hhi⟩
  obtain ⟨r', hreads⟩ := exists_reads lo hi (Int.le_of_lt hlo) hhi cs
  rw [← h, readInteger_of_reads hlo hhi hreads]
  exact hreads

section Kinds

variable {lo hi : Int} {cs : List Char}

theorem reads_ok_iff {v : Int} :
    Reads lo hi cs (.ok v) ↔ ∃ negative ds, SplitsSign cs negative ds ∧ ds ≠ []
      ∧ (∀ d ∈ ds, d.isDigit = true) ∧ signed negative (decimalFrom 0 ds) = v
      ∧ lo ≤ v ∧ v ≤ hi := by
  constructor
  · rintro (_ | _ | ⟨hsplit, hne, hds, hin⟩)
    exact ⟨_, _, hsplit, hne, hds, rfl, hin⟩
  · rintro ⟨_, _, hsplit, hne, hds, rfl, hin⟩
    exact .number hsplit hne hds hin

theorem reads_empty_iff : Reads lo hi cs (.error .empty) ↔ cs = [] := by
  constructor
  · rintro ⟨⟩
    rfl
  · rintro rfl
    exact .nothing

theorem reads_invalidDigit_iff :
    Reads lo hi cs (.error .invalidDigit) ↔ cs = ['+'] ∨ cs = ['-']
      ∨ ∃ negative ds c rest, SplitsSign cs negative (ds ++ c :: rest)
        ∧ (∀ d ∈ ds, d.isDigit = true) ∧ c.isDigit = false
        ∧ lo ≤ signed negative (decimalFrom 0 ds) ∧ signed negative (decimalFrom 0 ds) ≤ hi := by
  constructor
  · intro h
    cases h with
    | loneSign hc => exact hc.elim (fun h => Or.inl (h ▸ rfl)) fun h => Or.inr (Or.inl (h ▸ rfl))
    | offending hsplit hds hc hin => exact Or.inr (Or.inr ⟨_, _, _, _, hsplit, hds, hc, hin⟩)
  · rintro (rfl | rfl | ⟨_, _, _, _, hsplit, hds, hc, hin⟩)
    · exact .loneSign (Or.inl rfl)
    · exact .loneSign (Or.inr rfl)
    · exact .offending hsplit hds hc hin

theorem reads_tooLarge_iff :
    Reads lo hi cs (.error .tooLarge) ↔ ∃ ds rest, SplitsSign cs false (ds ++ rest)
      ∧ (∀ d ∈ ds, d.isDigit = true) ∧ hi < decimalFrom 0 ds := by
  constructor
  · rintro (_ | _ | _ | _ | ⟨hsplit, hds, hout⟩)
    exact ⟨_, _, hsplit, hds, hout⟩
  · rintro ⟨_, _, hsplit, hds, hout⟩
    exact .tooLarge hsplit hds hout

theorem reads_tooSmall_iff :
    Reads lo hi cs (.error .tooSmall) ↔ ∃ ds rest, SplitsSign cs true (ds ++ rest)
      ∧ (∀ d ∈ ds, d.isDigit = true) ∧ -(decimalFrom 0 ds : Int) < lo := by
  constructor
  · rintro (_ | _ | _ | _ | _ | ⟨hsplit, hds, hout⟩)
    exact ⟨_, _, hsplit, hds, hout⟩
  · rintro ⟨_, _, hsplit, hds, hout⟩
    exact .tooSmall hsplit hds hout

end Kinds

/-! ## Numbers that were written -/

theorem isDigit_of_mem_toDigits {n : Nat} : ∀ d ∈ Nat.toDigits 10 n, d.isDigit = true :=
  fun _ hd => Nat.isDigit_of_mem_toDigits (by decide) (by decide) hd

theorem decimalFrom_toDigits (n : Nat) : decimalFrom 0 (Nat.toDigits 10 n) = n := by
  have hfold : decimalFrom 0 (Nat.toDigits 10 n) = Nat.ofDigitChars 10 (Nat.toDigits 10 n) 0 := by
    unfold decimalFrom Nat.ofDigitChars
    congr 1
    funext v d
    rw [Nat.mul_comm]
  rw [hfold, Nat.ofDigitChars_ten_toDigits]

theorem isNumeral_toString (n : Nat) : IsNumeral (toString n) n :=
  ⟨Nat.toDigits 10 n, Nat.toDigits_ne_nil, isDigit_of_mem_toDigits, Or.inl Nat.toList_repr,
    decimalFrom_toDigits n⟩

/-- An unsigned 64-bit integer is read back from its digits. -/
theorem readUInt64_toString (n : UInt64) : readUInt64 (toString n.toNat) = .ok (n.toNat : Int) := by
  have hlt := n.toNat_lt
  have hle : (n.toNat : Int) ≤ maxUInt64 := by
    unfold maxUInt64
    omega
  have hread := readInteger_of_isNumeral (Int.le_refl 0) (show 0 ≤ maxUInt64 by decide)
    (isNumeral_toString n.toNat)
  rw [if_pos hle] at hread
  exact hread

/-- A signed 64-bit integer is read back from its sign and digits. -/
theorem readInt64_toString (n : Int64) : readInt64 (toString n.toInt) = .ok n.toInt := by
  have hlo : minInt64 ≤ n.toInt := n.le_toInt
  have hhi : n.toInt ≤ maxInt64 := n.toInt_le
  cases hn : n.toInt with
  | ofNat m =>
      rw [hn] at hhi
      have hread := readInt64_of_isNumeral (isNumeral_toString m)
      rw [if_pos (show (m : Int) ≤ maxInt64 from hhi)] at hread
      exact hread
  | negSucc m =>
      rw [hn] at hlo
      have htext : (toString (Int.negSucc m)).toList = '-' :: Nat.toDigits 10 (m + 1) := by
        show ("-" ++ toString (m + 1)).toList = _
        rw [String.toList_append, show (toString (m + 1)).toList = Nat.toDigits 10 (m + 1) from
          Nat.toList_repr]
        rfl
      have hne : Nat.toDigits 10 (m + 1) ≠ [] := Nat.toDigits_ne_nil
      have hread : readDigits minInt64 maxInt64 true 0 (Nat.toDigits 10 (m + 1))
          = if minInt64 ≤ -(decimalFrom 0 (Nat.toDigits 10 (m + 1)) : Int) then
              .ok (-(decimalFrom 0 (Nat.toDigits 10 (m + 1)) : Int))
            else .error .tooSmall :=
        readDigits_negative_of_isDigit (show 0 ≤ maxInt64 by decide) isDigit_of_mem_toDigits
          (show minInt64 ≤ -((0 : Nat) : Int) by decide)
      have hneg : Int.negSucc m = -((m + 1 : Nat) : Int) := Int.negSucc_eq m
      rw [decimalFrom_toDigits, ← hneg, if_pos hlo] at hread
      rw [readInt64, htext, readInteger, if_neg (by simp [hne]), if_neg (by decide),
        if_pos ⟨rfl, by decide⟩, hread]

end DashIndex.Text
