/-!
# Blanks around a text

A search text counts without the blanks at its two ends. What is blank is the
Unicode property White_Space: the zero-width space, the byte order mark, the
four separators U+001C to U+001F and NUL are not in it.
-/

namespace DashIndex.Text

/-- Whether a character has the property White_Space. -/
def isBlank (c : Char) : Bool :=
  let n := c.toNat
  (0x09 ≤ n && n ≤ 0x0D) || n == 0x20 || n == 0x85 || n == 0xA0 || n == 0x1680
    || (0x2000 ≤ n && n ≤ 0x200A) || n == 0x2028 || n == 0x2029 || n == 0x202F
    || n == 0x205F || n == 0x3000

/-- The text without the blanks at its end. -/
def trimEnd (cs : List Char) : List Char :=
  (cs.reverse.dropWhile isBlank).reverse

/-- The text without the blanks at either end. -/
def trim (cs : List Char) : List Char :=
  trimEnd (cs.dropWhile isBlank)

example : trim " \u0085a b\u3000".toList = "a b".toList := by decide
example : trim "\u200B\u0000".toList = "\u200B\u0000".toList := by decide
example : trim " \t\n".toList = [] := by decide

end DashIndex.Text
