import DashIndex.Toml.Scalar

/-!
# Values of TOML as they are written

A document is read in two passes. The first finds the terms: it sees where texts,
words, arrays and inline tables start and end. The second gives them their
meaning in the order in which they are written, and here a word may spell
nothing, a key may come twice or have too many parts. So such a fault only
counts in a document that is well-formed as a whole.
-/

namespace DashIndex.Toml

/-- Why a document has no meaning. -/
inductive Fault where
  | malformed
  /-- a key has too many parts -/
  | keyTooLong
  deriving DecidableEq, Repr

/--
How a fault of a document is reported: the report shows where in the document it
is, so it depends on the whole text.
-/
abbrev Reporter := (document : String) → Fault → String

/-- A value as it is written. -/
inductive Term where
  | text (s : String)
  | word (spelled : List Char)
  | array (items : List Term)
  | table (fields : List (List String × Term))

/-- The greatest number of parts of a key. -/
def maxKeyParts : Nat := 80

/-- Whether a key has no more parts than it may have. -/
def checkKey (path : List String) : Except Fault Unit :=
  if path.length ≤ maxKeyParts then .ok () else .error .keyTooLong

/-- What is there, or a fault if nothing is. -/
def orMalformed {α : Type} : Option α → Except Fault α
  | some a => .ok a
  | none => .error .malformed

mutual

/-- The value that a term stands for. -/
def Term.value : Term → Except Fault Value
  | .text s => .ok (.text s)
  | .word spelled => orMalformed (readWord spelled)
  | .array items => (valuesOf items).map (.array false)
  | .table fields => (withFields [] fields).map (.table .inline)

/-- The values that terms stand for, up to the first fault. -/
def valuesOf : List Term → Except Fault (List Value)
  | [] => .ok []
  | term :: terms => do
    let v ← term.value
    let vs ← valuesOf terms
    return v :: vs

/-- An inline table with further fields, up to the first fault. -/
def withFields (t : Table) : List (List String × Term) → Except Fault Table
  | [] => .ok t
  | (path, term) :: fields => do
    checkKey path
    let v ← term.value
    let t ← orMalformed (t.addField path v .inline)
    withFields t fields

end

end DashIndex.Toml
