import DashIndex.Json.Basic

/-!
# Reading JSON

The reader takes the first value off a list of characters and returns what
follows it. Blanks may stand between the elements. Numbers keep the way they are
spelled: digits alone are an integer, and a fraction, an exponent or a negative
zero makes a decimal.

Reading is bounded by a budget that the wrapper takes from the length of the
text: every level, every item and every character of a text takes one from it and
costs at least one character.
-/

namespace DashIndex.Json

/-- A blank between two elements. -/
def isSpace (c : Char) : Bool := c = ' ' || c = '\n' || c = '\r' || c = '\t'

/-- What follows the blanks. -/
def skip (cs : List Char) : List Char := cs.dropWhile isSpace

/-- The value of a hexadecimal digit. -/
def hexValue? (c : Char) : Option Nat :=
  if c.isDigit then some (c.toNat - '0'.toNat)
  else if 'a' ≤ c && c ≤ 'f' then some (c.toNat - 'a'.toNat + 10)
  else if 'A' ≤ c && c ≤ 'F' then some (c.toNat - 'A'.toNat + 10)
  else none

/-- The value of four hexadecimal digits. -/
def hexQuad? (a b c d : Char) : Option Nat :=
  match hexValue? a, hexValue? b, hexValue? c, hexValue? d with
  | some a, some b, some c, some d => some (((a * 16 + b) * 16 + c) * 16 + d)
  | _, _, _, _ => none

/-- The character of a code point that is not half of a pair. -/
def charOf? (n : Nat) : Option Char :=
  if h : n.isValidChar then some (Char.ofNatAux n h) else none

/-- The character of two code points that are the halves of a pair. -/
def pairOf? (high low : Nat) : Option Char :=
  if 0xD800 ≤ high ∧ high < 0xDC00 ∧ 0xDC00 ≤ low ∧ low < 0xE000 then
    charOf? (0x10000 + (high - 0xD800) * 0x400 + (low - 0xDC00))
  else none

/-- The character whose first half is known and whose second one is escaped next. -/
def readLowHalf (high : Nat) (cs : List Char) : Option (Char × List Char) :=
  match cs with
  | x :: y :: a :: b :: c :: d :: r =>
    if x = '\\' ∧ y = 'u' then
      ((hexQuad? a b c d).bind (pairOf? high)).map fun c => (c, r)
    else none
  | _ => none

/-- The character of an escape by its code point, or by the two halves of a pair. -/
def readCodePoint (cs : List Char) : Option (Char × List Char) :=
  match cs with
  | a :: b :: c :: d :: r =>
    match hexQuad? a b c d with
    | none => none
    | some n =>
      match charOf? n with
      | some c => some (c, r)
      | none => readLowHalf n r
  | _ => none

/-- The character that an escape of one letter stands for. -/
def shortEscape? (c : Char) : Option Char :=
  if c = '"' then some '"'
  else if c = '\\' then some '\\'
  else if c = '/' then some '/'
  else if c = 'b' then some '\x08'
  else if c = 'f' then some '\x0c'
  else if c = 'n' then some '\n'
  else if c = 'r' then some '\r'
  else if c = 't' then some '\t'
  else none

/-- The character that an escape stands for, after its backslash, and what follows it. -/
def readEscape : List Char → Option (Char × List Char)
  | [] => none
  | c :: r =>
    if c = 'u' then readCodePoint r else (shortEscape? c).map fun c => (c, r)

/-- The text up to its closing quote, after `acc` in reverse, and what follows the quote. -/
def readText : Nat → List Char → List Char → Option (List Char × List Char)
  | 0, _, _ => none
  | _, _, [] => none
  | budget + 1, acc, c :: r =>
    if c = '"' then some (acc.reverse, r)
    else if c = '\\' then
      match readEscape r with
      | none => none
      | some (c, r) => readText budget (c :: acc) r
    else if c.toNat < 0x20 then none
    else readText budget (c :: acc) r

/-- The value of a list of digits. -/
def digitsValue (ds : List Char) : Nat :=
  ds.foldl (fun v d => v * 10 + (d.toNat - '0'.toNat)) 0

/-- The digits after a point, if there is one; a point needs a digit after it. -/
def readFraction : List Char → Option (List Char × List Char)
  | [] => some ([], [])
  | c :: r =>
    if c = '.' then
      let ds := r.takeWhile Char.isDigit
      if ds.isEmpty then none else some (ds, r.dropWhile Char.isDigit)
    else some ([], c :: r)

/-- The digits of an exponent; it needs at least one. -/
def exponentDigits (negative : Bool) (r : List Char) : Option (Option Int × List Char) :=
  let ds := r.takeWhile Char.isDigit
  if ds.isEmpty then none
  else some (some (if negative then -(digitsValue ds : Int) else digitsValue ds),
    r.dropWhile Char.isDigit)

/-- The exponent, if there is one. -/
def readExponent : List Char → Option (Option Int × List Char)
  | [] => some (none, [])
  | c :: r =>
    if c = 'e' ∨ c = 'E' then
      match r with
      | [] => none
      | sign :: ds =>
        if sign = '-' then exponentDigits true ds
        else exponentDigits false (if sign = '+' then ds else r)
    else some (none, c :: r)

/-- A number from its parts: digits alone are an integer, unless they are a negative zero. -/
def numberOf (negative : Bool) (whole fraction : List Char) (exponent : Option Int) : Json :=
  let value := digitsValue (whole ++ fraction)
  match fraction, exponent with
  | [], none =>
    if negative then
      if value = 0 then .decimal ⟨true, 0, 0⟩ else .integer (-(value : Int))
    else .integer value
  | fraction, exponent =>
    .decimal ⟨negative, value, exponent.getD 0 - (fraction.length : Int)⟩

/-- A number after its sign. A zero is followed by no further digit. -/
def readUnsigned (negative : Bool) (cs : List Char) : Option (Json × List Char) :=
  let whole := cs.takeWhile Char.isDigit
  if whole.isEmpty || (whole.head? = some '0' && whole != ['0']) then none
  else
    match readFraction (cs.dropWhile Char.isDigit) with
    | none => none
    | some (fraction, r) =>
      match readExponent r with
      | none => none
      | some (exponent, r) => some (numberOf negative whole fraction exponent, r)

/-- A number. -/
def readNumber : List Char → Option (Json × List Char)
  | [] => none
  | c :: r => if c = '-' then readUnsigned true r else readUnsigned false (c :: r)

/-- A value that is spelled by a word, whose first letter has been taken. -/
def readWord (rest : List Char) (v : Json) (cs : List Char) : Option (Json × List Char) :=
  if rest.isPrefixOf cs then some (v, cs.drop rest.length) else none

/-- What follows the first character, if it is this one. -/
def after? (c : Char) : List Char → Option (List Char)
  | [] => none
  | d :: r => if d = c then some r else none

/-- A key with the colon after it, and what follows them. -/
def readKey (budget : Nat) (cs : List Char) : Option (String × List Char) :=
  match (after? '"' cs).bind (readText budget []) with
  | none => none
  | some (k, r) => (after? ':' (skip r)).map fun r => (String.ofList k, skip r)

mutual

/-- The value that the characters start with, and what follows it. -/
def readValue : Nat → List Char → Option (Json × List Char)
  | 0, _ => none
  | _, [] => none
  | budget + 1, c :: r =>
    if c = 'n' then readWord ['u', 'l', 'l'] .null r
    else if c = 't' then readWord ['r', 'u', 'e'] (.bool true) r
    else if c = 'f' then readWord ['a', 'l', 's', 'e'] (.bool false) r
    else if c = '"' then (readText budget [] r).map fun (s, r) => (.string (String.ofList s), r)
    else if c = '[' then
      match after? ']' (skip r) with
      | some r => some (.array [], r)
      | none => (readItems budget (skip r)).map fun (vs, r) => (.array vs, r)
    else if c = '\x7b' then
      match after? '\x7d' (skip r) with
      | some r => some (.object [], r)
      | none => (readFields budget (skip r)).map fun (fs, r) => (.object fs, r)
    else readNumber (c :: r)

/-- The items up to the closing bracket. -/
def readItems : Nat → List Char → Option (List Json × List Char)
  | 0, _ => none
  | budget + 1, cs =>
    match readValue budget cs with
    | none => none
    | some (v, r) =>
      match after? ',' (skip r) with
      | some r => (readItems budget (skip r)).map fun (vs, r) => (v :: vs, r)
      | none => (after? ']' (skip r)).map fun r => ([v], r)

/-- The fields up to the closing brace. -/
def readFields : Nat → List Char → Option (List (String × Json) × List Char)
  | 0, _ => none
  | budget + 1, cs =>
    match readKey budget cs with
    | none => none
    | some (k, r) =>
      match readValue budget r with
      | none => none
      | some (v, r) =>
        match after? ',' (skip r) with
        | some r => (readFields budget (skip r)).map fun (fs, r) => ((k, v) :: fs, r)
        | none => (after? '\x7d' (skip r)).map fun r => ([(k, v)], r)

end

/-- The value that a whole text spells. -/
def parse? (s : String) : Option Json :=
  let cs := skip s.toList
  match readValue (2 * cs.length + 2) cs with
  | some (v, r) => if (skip r).isEmpty then some v else none
  | none => none

end DashIndex.Json
