/-!
# Title patterns

A pattern is a text in which `%` stands for any run of characters, `_` for any
one character, and a backslash takes the next character as it is. Both the
pattern and the text it is held against end at their first NUL, and ASCII
letters match without regard to case. Every other character matches itself and
nothing else. That goes for U+FFFE and U+FFFF too, which older engines read as
U+FFFD; the one that is bundled tells the three apart. A pattern that ends in a
lone backslash matches nothing.

`escape` writes a needle so that none of its characters is special;
`containing` wraps it so that it may stand anywhere in the text.
-/

namespace DashIndex.Text.Like

/-- One element of a pattern. -/
inductive Token where
  /-- any run of characters, the empty one included -/
  | run
  /-- exactly one character, whichever it is -/
  | one
  /-- this character, in either case when it is an ASCII letter -/
  | letter (c : Char)
  deriving DecidableEq, Repr

/-- The element that a character is without a backslash before it. -/
def Token.ofChar (c : Char) : Token :=
  if c = '%' then .run else if c = '_' then .one else .letter c

/-- Split a pattern, or what follows a backslash in one. -/
def tokensFrom (escaped : Bool) : List Char → Option (List Token)
  | [] => if escaped then none else some []
  | c :: cs =>
    if escaped then (tokensFrom false cs).map (.letter c :: ·)
    else if c = '\\' then tokensFrom true cs
    else (tokensFrom false cs).map (Token.ofChar c :: ·)

/-- Split a pattern into its elements; `none` if a backslash stands at the end. -/
def tokens (cs : List Char) : Option (List Token) :=
  tokensFrom false cs

/-- The part of a text before its first NUL. -/
def untilNul (cs : List Char) : List Char :=
  cs.takeWhile (· != '\x00')

/-- An ASCII letter in lower case; every other character as it is. -/
def fold (c : Char) : Char := c.toLower

/-- Whether a test holds of the text or of what is left of it after some of its characters. -/
def anySuffix (test : List Char → Bool) : List Char → Bool
  | [] => test []
  | c :: cs => test (c :: cs) || anySuffix test cs

/-- Whether the elements match the whole text. -/
def fits : List Token → List Char → Bool
  | [], cs => cs.isEmpty
  | .run :: p, cs => anySuffix (fits p) cs
  | .one :: _, [] => false
  | .one :: p, _ :: cs => fits p cs
  | .letter _ :: _, [] => false
  | .letter a :: p, c :: cs => fold a == fold c && fits p cs

/-- Whether a text matches a pattern. -/
def accepts (pattern text : List Char) : Bool :=
  match tokens (untilNul pattern) with
  | none => false
  | some p => fits p (untilNul text)

/-- The characters that are special in a pattern. -/
def isSpecial (c : Char) : Bool := c == '%' || c == '_' || c == '\\'

/-- A text as a pattern for itself: each special character after a backslash. -/
def escape (cs : List Char) : List Char :=
  cs.flatMap fun c => if isSpecial c then ['\\', c] else [c]

/-- The pattern of the texts that contain a needle. -/
def containing (needle : List Char) : List Char :=
  '%' :: (escape needle ++ ['%'])

/-- The longest pattern, in UTF-8 bytes, that is ever held against a text. -/
def maxPatternBytes : Nat := 50000

example : containing "50%".toList = "%50\\%%".toList := by decide
example : accepts "%50\\%%".toList "Save 50% now".toList = true := by decide
example : accepts "%50\\%%".toList "Save 500 now".toList = false := by decide
example : accepts "%SA_E%".toList "save".toList = true := by decide
example : accepts "%ve\x00%".toList "save\x00d".toList = true := by decide
example : accepts "%\uFFFE%".toList "\uFFFF".toList = false := by decide

end DashIndex.Text.Like
