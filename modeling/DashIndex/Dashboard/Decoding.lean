import DashIndex.Dashboard.Basic
import DashIndex.Json.Floating
import DashIndex.Text.Integer
import DashIndex.Text.Quoted

/-!
# Dashboards as JSON

A dashboard is written as an object with all seven fields. It is read from such
an object, in which the folder may be missing or `null`, the tags and the views
may be missing, and further fields do not count; or from an array of the seven
values in the order of `fieldNames`.

Of several faults one is reported. In an object the fields that are there are
read in the order of their names and the first ill-typed one is the fault; only
when none is, the first missing one in the order of `fieldNames` is. In an array
it is the first item that is ill-typed or missing; items beyond the seventh are
a fault only when the seven are well-typed.
-/

namespace DashIndex

/-- What a reader of dashboards asks for. -/
inductive Expected where
  | text
  | integer
  | sequence
  | dashboard
  deriving DecidableEq, Repr

/-- What is asked for, in the words of a message. -/
def Expected.describe : Expected → String
  | .text => "a string"
  | .integer => "i64"
  | .sequence => "a sequence"
  | .dashboard => "struct Dashboard"

/-- Why a JSON value is no dashboard. -/
inductive DecodeError where
  /-- a value of another type than the one asked for -/
  | wrongType (got : Json) (expected : Expected)
  /-- an integer of 64 bits, but above the signed ones -/
  | outOfRange (n : Int)
  /-- a field that must be there and is not -/
  | missing (field : String)
  /-- an array that ends before the item at this position -/
  | tooShort (position : Nat)
  /-- an array of more than seven items -/
  | tooLong (length : Nat)
  deriving Repr

/-- A value in the words of a message; an integer of more than 64 bits counts as a float. -/
def Json.describe : Json → String
  | .null => "null"
  | .bool b => "boolean `" ++ (if b then "true" else "false") ++ "`"
  | .integer n =>
    if Text.minInt64 ≤ n ∧ n ≤ Text.maxUInt64 then "integer `" ++ toString n ++ "`"
    else "floating point `" ++ Decimal.text ⟨n < 0, n.natAbs, 0⟩ ++ "`"
  | .decimal d => "floating point `" ++ d.text ++ "`"
  | .string s => "string " ++ Text.quoted s
  | .array _ => "sequence"
  | .object _ => "map"

/-- The wording of a fault. -/
def DecodeError.message : DecodeError → String
  | .wrongType got expected =>
    "invalid type: " ++ got.describe ++ ", expected " ++ expected.describe
  | .outOfRange n => "invalid value: " ++ (Json.integer n).describe ++ ", expected i64"
  | .missing field => "missing field `" ++ field ++ "`"
  | .tooShort position =>
    "invalid length " ++ toString position ++ ", expected struct Dashboard with 7 elements"
  | .tooLong length => "invalid length " ++ toString length ++ ", expected fewer elements in array"

namespace Json

/-- The value as a text. -/
def asText : Json → Except DecodeError String
  | .string s => .ok s
  | v => .error (.wrongType v .text)

/-- The value as a text that may be absent. -/
def asText? : Json → Except DecodeError (Option String)
  | .null => .ok none
  | v => v.asText.map some

/-- The value as a signed 64-bit integer. -/
def asInt64 : Json → Except DecodeError Int64
  | .integer n =>
    if Text.minInt64 ≤ n ∧ n ≤ Text.maxInt64 then .ok (Int64.ofInt n)
    else if Text.maxInt64 < n ∧ n ≤ Text.maxUInt64 then .error (.outOfRange n)
    else .error (.wrongType (.integer n) .integer)
  | v => .error (.wrongType v .integer)

/-- The values as texts; the first that is none is the fault. -/
def asTextList : List Json → Except DecodeError (List String)
  | [] => .ok []
  | v :: vs =>
    match v.asText with
    | .error e => .error e
    | .ok s => (asTextList vs).map (s :: ·)

/-- The value as a list of texts. -/
def asTexts : Json → Except DecodeError (List String)
  | .array items => asTextList items
  | v => .error (.wrongType v .sequence)

end Json

namespace Dashboard

/-- The fields in the order in which they are written. -/
def fieldNames : List String :=
  ["uid", "title", "folder", "tags", "views", "created_at", "updated_at"]

/-- The dashboard as an object. -/
def toJson (d : Dashboard) : Json :=
  .object
    [("uid", .string d.uid), ("title", .string d.title), ("folder", Json.ofText? d.folder),
      ("tags", .array (d.tags.map .string)), ("views", .integer d.views.toInt),
      ("created_at", .integer d.createdAt.toInt), ("updated_at", .integer d.updatedAt.toInt)]

/-- A field read by a reader, if the field is there. -/
def readField {α : Type} (fields : List (String × Json)) (key : String)
    (read : Json → Except DecodeError α) : Except DecodeError (Option α) :=
  match Json.field? fields key with
  | none => .ok none
  | some v => (read v).map some

/-- A field that must be there. -/
def required {α : Type} (key : String) : Option α → Except DecodeError α
  | some v => .ok v
  | none => .error (.missing key)

/-- The dashboard that the fields of an object describe. -/
def ofFields (fields : List (String × Json)) : Except DecodeError Dashboard := do
  let createdAt ← readField fields "created_at" Json.asInt64
  let folder ← readField fields "folder" Json.asText?
  let tags ← readField fields "tags" Json.asTexts
  let title ← readField fields "title" Json.asText
  let uid ← readField fields "uid" Json.asText
  let updatedAt ← readField fields "updated_at" Json.asInt64
  let views ← readField fields "views" Json.asInt64
  let uid ← required "uid" uid
  let title ← required "title" title
  let createdAt ← required "created_at" createdAt
  let updatedAt ← required "updated_at" updatedAt
  return ⟨uid, title, folder.getD none, tags.getD [], views.getD 0, createdAt, updatedAt⟩

/-- The item at a position, read by a reader; `absent` if the array ends before it. -/
def readItem {α : Type} (items : List Json) (position : Nat) (read : Json → Except DecodeError α)
    (absent : Except DecodeError α) : Except DecodeError α :=
  match items[position]? with
  | none => absent
  | some v => read v

/-- The dashboard that the items of an array describe. -/
def ofItems (items : List Json) : Except DecodeError Dashboard := do
  let uid ← readItem items 0 Json.asText (.error (.tooShort 0))
  let title ← readItem items 1 Json.asText (.error (.tooShort 1))
  let folder ← readItem items 2 Json.asText? (.error (.tooShort 2))
  let tags ← readItem items 3 Json.asTexts (.ok [])
  let views ← readItem items 4 Json.asInt64 (.ok 0)
  let createdAt ← readItem items 5 Json.asInt64 (.error (.tooShort 5))
  let updatedAt ← readItem items 6 Json.asInt64 (.error (.tooShort 6))
  if 7 < items.length then .error (.tooLong items.length)
  else return ⟨uid, title, folder, tags, views, createdAt, updatedAt⟩

/-- The dashboard that a JSON value describes. -/
def ofJson : Json → Except DecodeError Dashboard
  | .object fields => ofFields fields
  | .array items => ofItems items
  | v => .error (.wrongType v .dashboard)

end Dashboard

end DashIndex
