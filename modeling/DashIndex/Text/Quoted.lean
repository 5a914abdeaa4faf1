import DashIndex.Text.Shapeless

/-!
# Texts quoted in messages

A message shows a text between quotes. NUL, tab, carriage return, line feed, the
quote and the backslash have an escape of their own; every other character
without a shape is shown by its code point in hexadecimal.
-/

namespace DashIndex.Text

/-- One character of a quoted text. -/
def quotedChar (c : Char) : List Char :=
  if c = '\x00' then ['\\', '0']
  else if c = '\t' then ['\\', 't']
  else if c = '\r' then ['\\', 'r']
  else if c = '\n' then ['\\', 'n']
  else if c = '"' then ['\\', '"']
  else if c = '\\' then ['\\', '\\']
  else if isShapeless c then
    ['\\', 'u', '\x7b'] ++ Nat.toDigits 16 c.toNat ++ ['\x7d']
  else [c]

/-- A text between quotes, as messages show it. -/
def quoted (s : String) : String :=
  String.ofList ('"' :: (s.toList.flatMap quotedChar ++ ['"']))

example : quoted "a\n\"é" = "\"a\\n\\\"é\"" := by decide +kernel
example : quoted "\u200B" = "\"\\u\x7b200b\x7d\"" := by decide +kernel

end DashIndex.Text
