/-!
# Reading bounded integers

Decimal integers are read from left to right against two bounds. The running
value is checked after every digit, so of a character that is no digit and a
value out of range, the one that comes first is reported.
-/

namespace DashIndex.Text

/-- Why a text is not an integer within the bounds. -/
inductive IntegerError where
  | empty
  | invalidDigit
  | tooLarge
  | tooSmall
  deriving DecidableEq, Repr

/-- The wording of a reading error. -/
def IntegerError.message : IntegerError → String
  | .empty => "cannot parse integer from empty string"
  | .invalidDigit => "invalid digit found in string"
  | .tooLarge => "number too large to fit in target type"
  | .tooSmall => "number too small to fit in target type"

/-- The value of an ASCII digit. -/
def digitValue? (c : Char) : Option Nat :=
  if c.isDigit then some (c.toNat - '0'.toNat) else none

/-- Read digits onto a running value that grows away from zero. -/
def readDigits (lo hi : Int) (negative : Bool) : Int → List Char → Except IntegerError Int
  | value, [] => .ok value
  | value, c :: cs =>
    match digitValue? c with
    | none => .error .invalidDigit
    | some d =>
      let next := if negative then value * 10 - d else value * 10 + d
      if hi < next then .error .tooLarge
      else if next < lo then .error .tooSmall
      else readDigits lo hi negative next cs

/--
Read an integer between `lo` and `hi`. A leading `+` is accepted; a leading `-`
only where the bounds admit negative numbers. A sign alone is no number.
-/
def readInteger (lo hi : Int) (cs : List Char) : Except IntegerError Int :=
  match cs with
  | [] => .error .empty
  | c :: ds =>
    if ds = [] ∧ (c = '+' ∨ c = '-') then .error .invalidDigit
    else if c = '+' then readDigits lo hi false 0 ds
    else if c = '-' ∧ lo < 0 then readDigits lo hi true 0 ds
    else readDigits lo hi false 0 (c :: ds)

/-- The largest signed 64-bit integer. -/
def maxInt64 : Int := 9223372036854775807

/-- The smallest signed 64-bit integer. -/
def minInt64 : Int := -9223372036854775808

/-- The largest unsigned 64-bit integer. -/
def maxUInt64 : Int := 18446744073709551615

/-- Read a signed 64-bit integer. -/
def readInt64 (s : String) : Except IntegerError Int :=
  readInteger minInt64 maxInt64 s.toList

/-- Read an unsigned 64-bit integer. -/
def readUInt64 (s : String) : Except IntegerError Int :=
  readInteger 0 maxUInt64 s.toList

example : readInt64 "+007" = .ok 7 := rfl
example : readInt64 "-" = .error .invalidDigit := rfl
example : readInt64 "9223372036854775808x" = .error .tooLarge := rfl
example : readInt64 "922337203685477580x" = .error .invalidDigit := rfl
example : readUInt64 "-0" = .error .invalidDigit := rfl

end DashIndex.Text
