import DashIndex.Json.Floating
import DashIndex.Json.Reader
import DashIndex.Toml.Value

/-!
# Words that are values

Integers, floats, booleans and dates are written without quotes, as one run of
letters, digits and the signs `+ - _ . :`. This module reads such a word.

An underscore stands between two digits. A decimal integer has no leading zero;
one with a radix has no sign. A float has digits on both sides of its point and
is not too large to be a double. Dates and times are checked against the
calendar; the seconds of a time may be left out.
-/

namespace DashIndex.Toml

/-- A character of a word. -/
def isWordChar (c : Char) : Bool :=
  c.isAlphanum || c == '_' || c == '+' || c == '-' || c == '.' || c == ':'

/-- The digits without their underscores; none if one does not stand between two digits. -/
def plainDigits (isDigit : Char → Bool) : List Char → Option (List Char)
  | [] => none
  | [c] => if isDigit c then some [c] else none
  | c :: '_' :: cs => if isDigit c then (plainDigits isDigit cs).map (c :: ·) else none
  | c :: cs => if isDigit c then (plainDigits isDigit cs).map (c :: ·) else none

/-- The value of digits in a radix. -/
def radixValue (radix : Nat) (ds : List Char) : Nat :=
  ds.foldl (fun v d => v * radix + (Json.hexValue? d).getD 0) 0

/-- Whether a character is a digit in a radix. -/
def isRadixDigit (radix : Nat) (c : Char) : Bool :=
  match Json.hexValue? c with
  | some v => v < radix
  | none => false

/-- The digits of a decimal number, without a leading zero. -/
def decimalDigits (cs : List Char) : Option (List Char) :=
  match plainDigits Char.isDigit cs with
  | some ('0' :: _ :: _) => none
  | ds => ds

/-- An integer, if its value is not beyond 128 bits. -/
def boundedInteger (n : Int) : Option Value :=
  if -170141183460469231731687303715884105728 ≤ n
      ∧ n ≤ 340282366920938463463374607431768211455 then some (.integer n) else none

/-- The sign that a word starts with, and what follows it. -/
def splitSign : List Char → Bool × List Char
  | '-' :: cs => (true, cs)
  | '+' :: cs => (false, cs)
  | cs => (false, cs)

/-- An integer in a radix, after the letter that names the radix. -/
def radixInteger (radix : Nat) (cs : List Char) : Option Value :=
  (plainDigits (isRadixDigit radix) cs).bind fun ds => boundedInteger (radixValue radix ds)

/-- A decimal integer. -/
def decimalInteger (cs : List Char) : Option Value :=
  let (negative, cs) := splitSign cs
  (decimalDigits cs).bind fun ds =>
    boundedInteger (if negative then -(radixValue 10 ds : Int) else radixValue 10 ds)

/-! ## Floats -/

/-- The least number that is rounded to infinity. -/
def floatLimit : Nat := Double.twoTo 1024 - Double.twoTo 970

/-- Whether digits times ten to a power are too large for a double. -/
def isTooLarge (digits : Nat) (power : Int) : Bool :=
  let size : Int := (Nat.toDigits 10 digits).length + power
  if digits = 0 then false
  else if 400 < size then true
  else if size < 300 then false
  else if 0 ≤ power then floatLimit ≤ digits * Double.tenTo power.toNat
  else floatLimit * Double.tenTo (-power).toNat ≤ digits

/-- A finite float from its three parts, the last two of which may be absent, but not both. -/
def finiteFloat (spelled whole : List Char) (fraction exponent : Option (List Char)) :
    Option Value :=
  match decimalDigits whole, fraction.map (plainDigits Char.isDigit),
    exponent.map fun e => ((splitSign e).1, plainDigits Char.isDigit (splitSign e).2) with
  | none, _, _ => none
  | _, some none, _ => none
  | _, _, some (_, none) => none
  | _, none, none => none
  | some w, f, e =>
    let f := (f.getD none).getD []
    let power : Int :=
      match e with
      | some (negative, some ds) => if negative then -(radixValue 10 ds : Int) else radixValue 10 ds
      | _ => 0
    if isTooLarge (radixValue 10 (w ++ f)) (power - f.length) then none
    else some (.float (String.ofList spelled))

/-- Cut at the first character of a kind, which is left out. -/
def cutAt (p : Char → Bool) (cs : List Char) : List Char × Option (List Char) :=
  match cs.dropWhile (!p ·) with
  | [] => (cs, none)
  | _ :: after => (cs.takeWhile (!p ·), some after)

/-- A float. -/
def readFloat (cs : List Char) : Option Value :=
  let body := (splitSign cs).2
  if body = ['i', 'n', 'f'] ∨ body = ['n', 'a', 'n'] then some (.float (String.ofList cs))
  else
    let (number, exponent) := cutAt (fun c => c == 'e' || c == 'E') body
    let (whole, fraction) := cutAt (· == '.') number
    finiteFloat cs whole fraction exponent

/-! ## Dates and times -/

/-- The number that exactly so many digits at the start spell, and what follows them. -/
def fixedDigits (count : Nat) (cs : List Char) : Option (Nat × List Char) :=
  let ds := cs.take count
  if ds.length = count ∧ ds.all Char.isDigit then some (radixValue 10 ds, cs.drop count) else none

/-- The days of a month. -/
def daysIn (year month : Nat) : Nat :=
  if month = 2 then
    if year % 4 = 0 ∧ (year % 100 ≠ 0 ∨ year % 400 = 0) then 29 else 28
  else if month = 4 ∨ month = 6 ∨ month = 9 ∨ month = 11 then 30
  else 31

/-- What follows a date at the start. -/
def afterDate? (cs : List Char) : Option (List Char) :=
  match fixedDigits 4 cs with
  | some (year, '-' :: cs) =>
    match fixedDigits 2 cs with
    | some (month, '-' :: cs) =>
      match fixedDigits 2 cs with
      | some (day, cs) =>
        if 1 ≤ month ∧ month ≤ 12 ∧ 1 ≤ day ∧ day ≤ daysIn year month then some cs
        else none
      | none => none
    | _ => none
  | _ => none

/-- What follows hours and minutes at the start. -/
def afterMinutes? (cs : List Char) : Option (List Char) :=
  match fixedDigits 2 cs with
  | some (hours, ':' :: cs) =>
    match fixedDigits 2 cs with
    | some (minutes, cs) => if hours ≤ 23 ∧ minutes ≤ 59 then some cs else none
    | none => none
  | _ => none

/-- What follows a time at the start; a leap second counts. -/
def afterTime? (cs : List Char) : Option (List Char) :=
  match afterMinutes? cs with
  | some (':' :: cs) =>
    match fixedDigits 2 cs with
    | some (seconds, '.' :: cs) =>
      let rest := cs.dropWhile Char.isDigit
      if seconds ≤ 60 ∧ rest.length < cs.length then some rest else none
    | some (seconds, cs) => if seconds ≤ 60 then some cs else none
    | none => none
  | other => other

/-- Whether the characters are the difference to universal time, or nothing. -/
def isOffset : List Char → Bool
  | [] => true
  | ['Z'] => true
  | ['z'] => true
  | '+' :: cs => afterMinutes? cs = some []
  | '-' :: cs => afterMinutes? cs = some []
  | _ => false

/-- Whether the characters are a time with or without an offset. -/
def isTimeWithOffset (cs : List Char) : Bool :=
  match afterTime? cs with
  | some rest => isOffset rest
  | none => false

/-- Whether the characters are a date, a time, or both. -/
def isDatetime (cs : List Char) : Bool :=
  match afterDate? cs with
  | some [] => true
  | some (c :: rest) => (c == 'T' || c == 't' || c == ' ') && isTimeWithOffset rest
  | none => afterTime? cs = some []

/-- Whether a word has the look of a date or a time. -/
def looksLikeDatetime (cs : List Char) : Bool :=
  match cs with
  | _ :: _ :: ':' :: _ => true
  | _ :: _ :: _ :: _ :: '-' :: _ => cs.take 4 |>.all Char.isDigit
  | _ => false

/-! ## Words -/

/-- The value that a word spells. -/
def readWord (cs : List Char) : Option Value :=
  match cs with
  | ['t', 'r', 'u', 'e'] => some (.boolean true)
  | ['f', 'a', 'l', 's', 'e'] => some (.boolean false)
  | '0' :: 'x' :: ds => radixInteger 16 ds
  | '0' :: 'o' :: ds => radixInteger 8 ds
  | '0' :: 'b' :: ds => radixInteger 2 ds
  | _ =>
    if looksLikeDatetime cs then
      if isDatetime cs then some (.datetime (String.ofList cs)) else none
    else
      match decimalInteger cs with
      | some v => some v
      | none => readFloat cs

/-- Whether the characters after a date and a blank start a time. -/
def startsTime : List Char → Bool
  | a :: b :: ':' :: _ => a.isDigit && b.isDigit
  | _ => false

/-- The word at the start; a date and a time with one blank between them are one word. -/
def takeWord (cs : List Char) : List Char × List Char :=
  let word := cs.takeWhile isWordChar
  let rest := cs.dropWhile isWordChar
  match rest with
  | ' ' :: more =>
    if afterDate? word = some [] && startsTime more then
      (word ++ ' ' :: more.takeWhile isWordChar, more.dropWhile isWordChar)
    else (word, rest)
  | _ => (word, rest)

end DashIndex.Toml
