/-!
# JSON values

The dynamic values that dashboards arrive as and that answers leave as. An
integer is unbounded here; a number spelled with a fraction or an exponent keeps
its digits and its power of ten. The fields of an object stand in the order in
which they were written, and a key that is written twice counts with its last
value.
-/

namespace DashIndex

/-- A number spelled with a fraction or an exponent: `digits` times ten to `exponent`. -/
structure Decimal where
  negative : Bool
  digits : Nat
  exponent : Int
  deriving DecidableEq, Repr, Inhabited

inductive Json where
  | null
  | bool (b : Bool)
  | integer (n : Int)
  | decimal (d : Decimal)
  | string (s : String)
  | array (items : List Json)
  | object (fields : List (String × Json))
  deriving Repr, Inhabited

namespace Json

/-- The value of a key, the last one if the key is written twice. -/
def field? : List (String × Json) → String → Option Json
  | [], _ => none
  | (k, v) :: fields, key =>
    match field? fields key with
    | some later => some later
    | none => if k = key then some v else none

/-- The value of an optional text: `null` when there is none. -/
def ofText? : Option String → Json
  | none => .null
  | some s => .string s

end Json

end DashIndex
