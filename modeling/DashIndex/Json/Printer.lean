import DashIndex.Json.Basic

/-!
# Writing JSON

A value is written with one item to a line and two blanks of indent per level;
an empty array or object stays on its line. In a text, the quote, the backslash
and the control characters below U+0020 are escaped, by a letter where there is
one and by four hexadecimal digits otherwise; all else is written as it is.
-/

namespace DashIndex.Json

/-- The decimal digits of an integer, after a `-` if it is negative. -/
def intChars (n : Int) : List Char :=
  if n < 0 then '-' :: Nat.toDigits 10 n.natAbs else Nat.toDigits 10 n.natAbs

/-- One character of a text, escaped if it must be. -/
def escapeChar (c : Char) : List Char :=
  if c = '"' then ['\\', '"']
  else if c = '\\' then ['\\', '\\']
  else if c = '\x08' then ['\\', 'b']
  else if c = '\t' then ['\\', 't']
  else if c = '\n' then ['\\', 'n']
  else if c = '\x0c' then ['\\', 'f']
  else if c = '\r' then ['\\', 'r']
  else if c.toNat < 0x20 then
    ['\\', 'u', '0', '0', Nat.digitChar (c.toNat / 16), Nat.digitChar (c.toNat % 16)]
  else [c]

/-- A text between quotes. -/
def textChars (s : String) : List Char :=
  '"' :: (s.toList.flatMap escapeChar ++ ['"'])

/-- A number with its power of ten written out as an exponent. -/
def decimalChars (d : Decimal) : List Char :=
  (if d.negative then ['-'] else []) ++ Nat.toDigits 10 d.digits ++ 'e' :: intChars d.exponent

/-- A new line, indented to a depth. -/
def line (depth : Nat) : List Char :=
  '\n' :: List.replicate (2 * depth) ' '

/-- A key, the colon and the blank after it. -/
def keyChars (k : String) : List Char :=
  textChars k ++ [':', ' ']

mutual

/-- A value at a depth of nesting. -/
def chars (depth : Nat) : Json → List Char
  | .null => ['n', 'u', 'l', 'l']
  | .bool true => ['t', 'r', 'u', 'e']
  | .bool false => ['f', 'a', 'l', 's', 'e']
  | .integer n => intChars n
  | .decimal d => decimalChars d
  | .string s => textChars s
  | .array items => '[' :: (itemChars depth items ++ [']'])
  | .object fields => '\x7b' :: (fieldChars depth fields ++ ['\x7d'])

/-- The items of an array inside a value at a depth. -/
def itemChars (depth : Nat) : List Json → List Char
  | [] => []
  | [v] => line (depth + 1) ++ (chars (depth + 1) v ++ line depth)
  | v :: vs => line (depth + 1) ++ (chars (depth + 1) v ++ ',' :: itemChars depth vs)

/-- The fields of an object inside a value at a depth. -/
def fieldChars (depth : Nat) : List (String × Json) → List Char
  | [] => []
  | [(k, v)] => line (depth + 1) ++ (keyChars k ++ (chars (depth + 1) v ++ line depth))
  | (k, v) :: fs =>
    line (depth + 1) ++ (keyChars k ++ (chars (depth + 1) v ++ ',' :: fieldChars depth fs))

end

/-- The written form of a value. -/
def pretty (v : Json) : String :=
  String.ofList (chars 0 v)

end DashIndex.Json
