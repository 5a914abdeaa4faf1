/-!
# TOML values and tables

A table remembers how it came to be, because that decides whether it may still
grow: a table that a header defines, or that another header passes through, can
be given tables below it; one that dotted keys make or pass through can be given
further keys by dotted keys, but is not defined by a header any more; an inline
table is closed.

`Table.update` goes down a path and changes the table at its end. `defineField`,
`defineTable` and `defineItem` are the three ways in which a document adds to
its root table.
-/

namespace DashIndex.Toml

/-- How a table came to be. -/
inductive TableKind where
  /-- written between braces -/
  | inline
  /-- defined by a header, or the root -/
  | header
  /-- passed through by a header -/
  | implied
  /-- made or passed through by a dotted key -/
  | dotted
  deriving DecidableEq, Repr

inductive Value where
  | text (s : String)
  | integer (n : Int)
  | float (spelled : String)
  | boolean (b : Bool)
  | datetime (spelled : String)
  /-- an array; `ofTables` if headers between double brackets make it -/
  | array (ofTables : Bool) (items : List Value)
  | table (kind : TableKind) (fields : List (String × Value))
  deriving Repr, Inhabited

/-- The keys of a table with their values, each key once. -/
abbrev Table := List (String × Value)

namespace Table

/-- The value of a key. -/
def get? : Table → String → Option Value
  | [], _ => none
  | (k, v) :: t, key => if k = key then some v else get? t key

/-- Give a key a value, in its place if it is there and at the end otherwise. -/
def set : Table → String → Value → Table
  | [], key, value => [(key, value)]
  | (k, v) :: t, key, value => if k = key then (k, value) :: t else (k, v) :: set t key value

/--
Change the table at the end of a path, making the tables that are missing on the
way. The way leads through tables that are not closed, and through the last
table of an array of tables. A dotted key does not lead through a table that a
header defines.
-/
def update (byDottedKey : Bool) (change : TableKind → Table → Option Table) :
    List String → TableKind → Table → Option Table
  | [], kind, t => change kind t
  | key :: path, _, t =>
    match t.get? key with
    | none =>
      let kind := if byDottedKey then TableKind.dotted else .implied
      (update byDottedKey change path kind []).map fun sub => t.set key (.table kind sub)
    | some (.table kind sub) =>
      if kind = .inline ∨ (byDottedKey ∧ kind = .header) then none
      else
        let kind := if byDottedKey then TableKind.dotted else kind
        (update byDottedKey change path kind sub).map fun sub => t.set key (.table kind sub)
    | some (.array true items) =>
      match items.reverse with
      | .table kind sub :: before =>
        (update byDottedKey change path kind sub).map fun sub =>
          t.set key (.array true ((.table kind sub :: before).reverse))
      | _ => none
    | some _ => none

/-- Give a new key a value. -/
def setNew (t : Table) (key : String) (value : Value) : Option Table :=
  match t.get? key with
  | none => some (t.set key value)
  | some _ => none

/-- Add a field, whose key may be dotted, to a table. -/
def addField (path : List String) (value : Value) (kind : TableKind) (t : Table) : Option Table :=
  match path.getLast? with
  | none => none
  | some key =>
    let place (kind : TableKind) (t : Table) : Option Table :=
      if path.length = 1 ∨ kind = .dotted then t.setNew key value else none
    update true place path.dropLast kind t

/-- Add a field to the table that the last header named. -/
def defineField (header path : List String) (value : Value) (root : Table) : Option Table :=
  update false (addField path value) header .header root

/-- Define the table that a header names. -/
def defineTable (path : List String) (root : Table) : Option Table :=
  match path.getLast? with
  | none => none
  | some key =>
    let place (_ : TableKind) (t : Table) : Option Table :=
      match t.get? key with
      | none => some (t.set key (.table .header []))
      | some (.table .implied sub) => some (t.set key (.table .header sub))
      | some _ => none
    update false place path.dropLast .header root

/-- Add a table to the array of tables that a header names. -/
def defineItem (path : List String) (root : Table) : Option Table :=
  match path.getLast? with
  | none => none
  | some key =>
    let place (_ : TableKind) (t : Table) : Option Table :=
      match t.get? key with
      | none => some (t.set key (.array true [.table .header []]))
      | some (.array true items) => some (t.set key (.array true (items ++ [.table .header []])))
      | some _ => none
    update false place path.dropLast .header root

end Table

end DashIndex.Toml
