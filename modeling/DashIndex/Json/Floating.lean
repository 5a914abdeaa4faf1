import DashIndex.Json.Basic

/-!
# Decimals as double-precision numbers

Error messages name a number that is no 64-bit integer by the double-precision
number it is read as. The digits are rounded to a double first and then scaled
by a power of ten, itself a double, with one more rounding. The number is
written with the fewest digits that read back to it: from a hundred-thousandth
up to ten to the sixteenth in full, with a `.0` where no fraction is left, and
beyond that with an exponent.

All of it is exact arithmetic on natural numbers: a double is a mantissa times a
power of two, and rounding goes to the nearest, ties to the even mantissa.
-/

namespace DashIndex

/-- The number `mantissa` times two to `exponent`. -/
structure Double where
  mantissa : Nat
  exponent : Int
  deriving DecidableEq, Repr

namespace Double

/-- The least exponent of a double. -/
def minExponent : Int := -1074

/-- A power of two. -/
def twoTo (n : Nat) : Nat := Nat.pow 2 n

/-- A power of ten. -/
def tenTo (n : Nat) : Nat := Nat.pow 10 n

/-- A quotient, rounded to the nearest, a tie to the even neighbour. -/
def roundDiv (num den : Nat) : Nat :=
  let q := num / den
  let r := num % den
  if 2 * r < den then q
  else if den < 2 * r then q + 1
  else if q % 2 = 0 then q else q + 1

/-- The quotient in units of two to `exponent`, as a fraction. -/
def inUnits (num den : Nat) (exponent : Int) : Nat × Nat :=
  if 0 ≤ exponent then (num, den * twoTo exponent.toNat) else (num * twoTo (-exponent).toNat, den)

/-- The double nearest to a quotient. -/
def ofRatio (num den : Nat) : Double :=
  if num = 0 then ⟨0, minExponent⟩
  else
    let guess : Int := (num.log2 : Int) - (den.log2 : Int) - 52
    let (n, d) := inUnits num den guess
    let exponent := max (if n / d < twoTo 52 then guess - 1 else guess) minExponent
    let (n, d) := inUnits num den exponent
    let m := roundDiv n d
    if m = twoTo 53 then ⟨twoTo 52, exponent + 1⟩ else ⟨m, exponent⟩

/-- The double times the numerator over the denominator, rounded. -/
def scaleBy (x : Double) (num den : Nat) : Double :=
  if 0 ≤ x.exponent then ofRatio (x.mantissa * twoTo x.exponent.toNat * num) den
  else ofRatio (x.mantissa * num) (twoTo (-x.exponent).toNat * den)

/-- The value as a fraction. -/
def ratio (x : Double) : Nat × Nat :=
  if 0 ≤ x.exponent then (x.mantissa * twoTo x.exponent.toNat, 1)
  else (x.mantissa, twoTo (-x.exponent).toNat)

/-- The largest power of ten that is a double. -/
def maxPower : Nat := 308

/-- The greatest exponent of a double. -/
def maxExponent : Int := 971

/-- A number beyond the doubles. -/
def beyond : Double := ⟨twoTo 52, maxExponent + 1⟩

/-- The double times ten to a power, in steps that each stay a double. -/
def scaleTen (x : Double) (power : Int) : Double :=
  if x.mantissa = 0 then x
  else if (maxPower : Int) < power then beyond
  else if power < -(maxPower : Int) then
    let (n, d) := (ofRatio (tenTo maxPower) 1).ratio
    scaleTen (x.scaleBy d n) (power + maxPower)
  else
    let (n, d) := (ofRatio (tenTo power.natAbs) 1).ratio
    if 0 ≤ power then x.scaleBy n d else x.scaleBy d n
termination_by (-power).toNat
decreasing_by simp only [maxPower] at *; omega

/-! ## The fewest digits -/

/-- The number of digits before the point; of a number below one, less the zeros after it. -/
def leadingPlace (num den : Nat) : Int :=
  if den ≤ num then ((Nat.toDigits 10 (num / den)).length : Int)
  else
    let zeros := (Nat.toDigits 10 (den / num)).length
    if num * tenTo zeros < den then -(zeros : Int)
    else if num * tenTo (zeros - 1) < den then 1 - (zeros : Int) else 2 - (zeros : Int)

/--
The number on the grid of `count` significant digits that reads back as the
double, if there is one: the nearer neighbour on the grid first.
-/
def onGrid? (x : Double) (count : Nat) : Option (Nat × Int) :=
  let (num, den) := x.ratio
  let place := leadingPlace num den - count
  let (n, d) :=
    if 0 ≤ place then (num, den * tenTo place.toNat) else (num * tenTo (-place).toNat, den)
  let readsBack (k : Nat) : Bool :=
    (if 0 ≤ place then ofRatio (k * tenTo place.toNat) 1
      else ofRatio k (tenTo (-place).toNat)) = x
  let near := roundDiv n d
  let far := if near = n / d then near + 1 else n / d
  if readsBack near then some (near, place)
  else if readsBack far then some (far, place)
  else none

/-- The fewest digits that read back, with the power of ten of the last one, which is not zero. -/
def shortest (x : Double) : Nat × Int :=
  let (digits, place) := ((List.range 17).findSome? fun i => onGrid? x (i + 1)).getD (0, 0)
  if digits % 10 = 0 then (digits / 10, place + 1) else (digits, place)

/-- Digits and the power of ten of the last one, written out. -/
def positional (digits : Nat) (place : Int) : String :=
  let ds := Nat.toDigits 10 digits
  if 0 ≤ place then String.ofList (ds ++ List.replicate place.toNat '0') ++ ".0"
  else
    let after := (-place).toNat
    let ds := List.replicate (after + 1 - ds.length) '0' ++ ds
    let point := ds.length - after
    String.ofList (ds.take point) ++ "." ++ String.ofList (ds.drop point)

/-- Digits with a point after the first and the power of ten of the first, with its sign. -/
def scientific (digits : Nat) (power : Int) : String :=
  let ds := Nat.toDigits 10 digits
  String.ofList (ds.take 1) ++ (if 1 < ds.length then "." else "") ++ String.ofList (ds.drop 1)
    ++ "e" ++ (if 0 ≤ power then "+" else "-") ++ toString power.natAbs

/-- The least power of ten of the first digit of a number that is written out. -/
def leastPositional : Int := -5

/-- The greatest power of ten of the first digit of a number that is written out. -/
def greatestPositional : Int := 15

/-- The number as it is written in a message. -/
def text (x : Double) : String :=
  if x.mantissa = 0 then "0.0"
  else if maxExponent < x.exponent then "inf"
  else
    let (digits, place) := shortest x
    let power := place + (Nat.toDigits 10 digits).length - 1
    if leastPositional ≤ power && power ≤ greatestPositional then positional digits place
    else scientific digits power

end Double

namespace Decimal

/-- The digits that still fit into 64 bits; the further ones only count as places. -/
def fitted (digits : Nat) (exponent : Int) : Nat × Int :=
  if digits < 18446744073709551616 then (digits, exponent) else fitted (digits / 10) (exponent + 1)
termination_by digits
decreasing_by omega

/-- The double that the digits are read as, leaving out the sign. -/
def magnitude (d : Decimal) : Double :=
  let (digits, exponent) := fitted d.digits d.exponent
  (Double.ofRatio digits 1).scaleTen exponent

/-- The number as it is written in a message. -/
def text (d : Decimal) : String :=
  (if d.negative then "-" else "") ++ d.magnitude.text

example : text ⟨false, 15, -1⟩ = "1.5" ∧ text ⟨true, 0, 0⟩ = "-0.0" := by decide +kernel
example : text ⟨false, 1, 15⟩ = "1000000000000000.0" ∧ text ⟨false, 1, 16⟩ = "1e+16" := by
  decide +kernel
example : text ⟨false, 15, -6⟩ = "0.000015" ∧ text ⟨false, 15, -7⟩ = "1.5e-6" := by
  decide +kernel
example : text ⟨true, 1, 23⟩ = "-1e+23" := by decide +kernel

end Decimal

end DashIndex
