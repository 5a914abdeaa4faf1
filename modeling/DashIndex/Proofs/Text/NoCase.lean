import DashIndex.Text.NoCase

/-!
# Comparing titles is comparing keys

Titles are compared up to a NUL that both share, so the comparison looks at two
titles at once, and that it is transitive does not show. It shows in another
form: a title has a key, its folded bytes up to and including the first NUL, and
two titles stand as their keys do and, where these agree, as their lengths do.
Both parts of that comparison are total preorders, so the whole is one, and titles tie
if and only if they have one key.
-/

namespace DashIndex.Text.NoCase

/-- The folded bytes up to the first NUL, and that NUL. -/
def foldedHead : List UInt8 → List UInt8
  | [] => []
  | b :: bs => if b = 0 then [0] else fold b :: foldedHead bs

theorem fold_zero : fold 0 = 0 := rfl

/-- Only NUL folds to NUL. -/
theorem fold_ne_zero {b : UInt8} (h : b ≠ 0) : fold b ≠ 0 := by
  unfold fold
  split
  · rename_i hb
    simp only [Bool.and_eq_true, decide_eq_true_eq, UInt8.le_iff_toNat_le] at hb
    rw [ne_eq, ← UInt8.toNat_inj, UInt8.toNat_add]
    have h1 := hb.1
    have h2 := hb.2
    simp only [UInt8.reduceToNat] at h1 h2 ⊢
    omega
  · exact h

theorem foldedHead_zero_cons (bs : List UInt8) : foldedHead (0 :: bs) = [0] := by
  simp [foldedHead]

theorem foldedHead_cons {b : UInt8} (h : b ≠ 0) (bs : List UInt8) :
    foldedHead (b :: bs) = fold b :: foldedHead bs := by
  simp [foldedHead, h]

theorem foldedHead_ne_nil (b : UInt8) (bs : List UInt8) : foldedHead (b :: bs) ≠ [] := by
  unfold foldedHead; split <;> simp

theorem compare_zero_fold {b : UInt8} (h : b ≠ 0) : compare 0 (fold b) = .lt := by
  rw [Std.compare_eq_lt, UInt8.lt_iff_toNat_lt]
  exact Nat.pos_of_ne_zero fun he => fold_ne_zero h (UInt8.toNat_inj.mp he)

/-! ## Two titles -/

theorem compareBytes_cons {a b : UInt8} (h : ¬ (a = 0 ∧ b = 0)) (as bs : List UInt8) :
    compareBytes (a :: as) (b :: bs) = (compare (fold a) (fold b)).then (compareBytes as bs) := by
  rw [compareBytes, if_neg h]

/-- The two ways of comparing agree once the lengths have the last word. -/
theorem compareBytes_then_length (as bs : List UInt8) :
    (compareBytes as bs).then (compare as.length bs.length)
      = (compare (foldedHead as) (foldedHead bs)).then (compare as.length bs.length) := by
  induction as generalizing bs with
  | nil =>
      cases bs with
      | nil => rfl
      | cons b bs =>
          -- the shorter title comes first, by its length here and by its key there
          have hlen : compare ([] : List UInt8).length (b :: bs).length = .lt :=
            Nat.compare_eq_lt.mpr (Nat.succ_pos _)
          obtain ⟨x, xs, hx⟩ := List.exists_cons_of_ne_nil (foldedHead_ne_nil b bs)
          rw [hx, hlen, show foldedHead [] = [] from rfl, List.compare_nil_cons]
          rfl
  | cons a as ih =>
      cases bs with
      | nil =>
          have hlen : compare (a :: as).length ([] : List UInt8).length = .gt :=
            Nat.compare_eq_gt.mpr (Nat.succ_pos _)
          obtain ⟨x, xs, hx⟩ := List.exists_cons_of_ne_nil (foldedHead_ne_nil a as)
          rw [hx, hlen, show foldedHead [] = [] from rfl, List.compare_cons_nil]
          rfl
      | cons b bs =>
          have hlen : compare (a :: as).length (b :: bs).length = compare as.length bs.length := by
            simp only [List.length_cons, Nat.compare_eq_ite_lt, Nat.add_lt_add_iff_right]
          by_cases ha : a = 0
          · by_cases hb : b = 0
            · -- a shared NUL: both sides stop here
              subst ha; subst hb
              rw [foldedHead_zero_cons, foldedHead_zero_cons, compareBytes, if_pos ⟨rfl, rfl⟩,
                Std.ReflOrd.compare_self]
            · subst ha
              rw [foldedHead_zero_cons, foldedHead_cons hb, compareBytes_cons (by simp [hb]),
                List.compare_cons_cons, fold_zero, compare_zero_fold hb]
              rfl
          · by_cases hb : b = 0
            · subst hb
              rw [foldedHead_zero_cons, foldedHead_cons ha, compareBytes_cons (by simp [ha]),
                List.compare_cons_cons, fold_zero, Std.OrientedOrd.eq_swap (a := fold a),
                compare_zero_fold ha]
              rfl
            · rw [foldedHead_cons ha, foldedHead_cons hb, compareBytes_cons (by simp [ha]),
                List.compare_cons_cons, Ordering.then_assoc, Ordering.then_assoc, hlen, ih]

/-- The key of a title, without its length. -/
def titleKey (s : String) : List UInt8 := foldedHead (bytes s)

/-- The length of a title in bytes. -/
def byteLength (s : String) : Nat := (bytes s).length

theorem order_eq_compareLex :
    order = compareLex (compareOn titleKey) (compareOn byteLength) := by
  funext s t
  exact compareBytes_then_length (bytes s) (bytes t)

/-- **Titles are totally preordered.** -/
instance : Std.TransCmp order := by
  rw [order_eq_compareLex]; infer_instance

/-! ## Keys -/

/-- What tells how a title stands: its folded bytes up to the first NUL, then its length. -/
def key (s : String) : List UInt8 × Nat := (titleKey s, byteLength s)

/-- Keys stand as their bytes do and, where these are the same, as their lengths do. -/
def compareKeys (k l : List UInt8 × Nat) : Ordering := (compare k.1 l.1).then (compare k.2 l.2)

theorem order_eq_compareKeys (s t : String) : order s t = compareKeys (key s) (key t) :=
  compareBytes_then_length (bytes s) (bytes t)

theorem compareKeys_eq_eq {k l : List UInt8 × Nat} : compareKeys k l = .eq ↔ k = l := by
  rw [compareKeys, Ordering.then_eq_eq, Std.compare_eq_iff_eq, Std.compare_eq_iff_eq, Prod.ext_iff]

/--
**Comparing titles is comparing their keys.** So every title is level with itself, of two
titles one is at most the other, both are only if the keys are the same, what is at most a
second title is at most whatever that one is at most, and titles tie if and only if they
have one key.
-/
theorem order_by_keys (s t u : String) :
    order s t = compareKeys (key s) (key t)
      ∧ order s s = .eq
      ∧ ((order s t).isLE = true ∨ (order t s).isLE = true)
      ∧ ((order s t).isLE = true → (order t s).isLE = true → key s = key t)
      ∧ ((order s t).isLE = true → (order t u).isLE = true → (order s u).isLE = true)
      ∧ (order s t = .eq ↔ key s = key t) := by
  have htie : order s t = .eq ↔ key s = key t := by
    rw [order_eq_compareKeys, compareKeys_eq_eq]
  refine ⟨order_eq_compareKeys s t, Std.ReflCmp.compare_self, ?_, fun hst hts => ?_,
    fun hst htu => Std.TransCmp.isLE_trans hst htu, htie⟩
  · have hswap : order t s = (order s t).swap := Std.OrientedCmp.eq_swap
    rw [hswap]
    cases order s t with
    | lt => exact Or.inl rfl
    | eq => exact Or.inl rfl
    | gt => exact Or.inr rfl
  · exact htie.mp (Std.OrientedCmp.isLE_antisymm hst hts)

/-- What follows a shared NUL counts by its length only. -/
theorem order_by_keys_past_nul :
    order "a\x00x" "A\x00y" = .eq ∧ key "a\x00x" = ([97, 0], 3)
      ∧ (order "A" "a\x00zz").isLE = true := by
  have htie : key "a\x00x" = key "A\x00y" := by decide
  exact ⟨(order_by_keys "a\x00x" "A\x00y" "").2.2.2.2.2.mpr htie, by decide,
    (order_by_keys "A" "a\x00y" "a\x00zz").2.2.2.2.1 (by decide) (by decide)⟩

end DashIndex.Text.NoCase
