/-!
# Comparing titles without case

Titles are ordered by their UTF-8 bytes, ASCII letters taken in lower case. Two
titles are compared up to the first NUL that they share, or to the end of the
shorter one; if they agree so far, the one with fewer bytes comes first.
-/

namespace DashIndex.Text.NoCase

/-- The UTF-8 bytes of a text. -/
def bytes (s : String) : List UInt8 :=
  s.toList.flatMap String.utf8EncodeChar

/-- The byte of an upper case ASCII letter becomes that of the lower case one. -/
def fold (b : UInt8) : UInt8 :=
  if 65 ≤ b && b ≤ 90 then b + 32 else b

/-- Compare up to the first shared NUL or the end of the shorter list. -/
def compareBytes : List UInt8 → List UInt8 → Ordering
  | [], _ => .eq
  | _, [] => .eq
  | a :: as, b :: bs =>
    if a = 0 ∧ b = 0 then .eq
    else (compare (fold a) (fold b)).then (compareBytes as bs)

/-- The order of two titles. -/
def order (s t : String) : Ordering :=
  (compareBytes (bytes s) (bytes t)).then (compare (bytes s).length (bytes t).length)

example : order "abc" "ABD" = .lt ∧ order "É" "é" = .lt ∧ order "_" "A" = .lt := by decide
example : order "a\x00zz" "A\x00b" = .gt ∧ order "a" "a\x00" = .lt := by decide

end DashIndex.Text.NoCase
