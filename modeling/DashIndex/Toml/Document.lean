import DashIndex.Toml.Term
import DashIndex.Toml.Text

/-!
# TOML documents

A document is a list of lines: fields, headers of tables and headers of items of
arrays of tables. The lines are read first and then added to the root table one
after the other, a field going to the table that the last header named. A
document that cannot be read as lines is malformed, whatever its lines say.

Arrays and inline tables nest at most `maxDepth` deep. They may run over several
lines, with comments, and may end in a comma. Between the brackets a line may end
wherever a blank may stand, except inside a dotted key.
-/

namespace DashIndex.Toml

/-- The deepest nesting of arrays and inline tables. -/
def maxDepth : Nat := 80

/-- What follows blanks, line breaks and comments; none if a comment holds a control character. -/
def skipFiller (inComment : Bool) : List Char → Option (List Char)
  | [] => some []
  | '\n' :: cs => skipFiller false cs
  | '\r' :: cs => skipFiller inComment cs
  | c :: cs =>
    if inComment then if isTextChar c then skipFiller true cs else none
    else if isBlankChar c then skipFiller false cs
    else if c = '#' then skipFiller true cs
    else some (c :: cs)

/-- What follows the blanks. -/
def skipBlanks (cs : List Char) : List Char := cs.dropWhile isBlankChar

/-- A character of a key without quotes. -/
def isKeyChar (c : Char) : Bool := c.isAlphanum || c == '_' || c == '-'

/-- One part of a key, and what follows it. -/
def readKeyPart (cs : List Char) : Option (String × List Char) :=
  match cs with
  | '"' :: _ => readQuoted cs
  | '\'' :: _ => readQuoted cs
  | _ =>
    let key := cs.takeWhile isKeyChar
    if key.isEmpty then none else some (String.ofList key, cs.dropWhile isKeyChar)

/-- A key of parts with dots between them, and what follows it and the blanks after it. -/
def readKey : Nat → List Char → Option (List String × List Char)
  | 0, _ => none
  | budget + 1, cs =>
    match readKeyPart (skipBlanks cs) with
    | none => none
    | some (part, cs) =>
      match skipBlanks cs with
      | '.' :: cs => (readKey budget cs).map fun (parts, cs) => (part :: parts, cs)
      | cs => some ([part], cs)

/-- What follows a `=` and the filler around it. -/
def afterEquals? (cs : List Char) : Option (List Char) :=
  match skipFiller false cs with
  | some ('=' :: cs) => skipFiller false cs
  | _ => none

mutual

/-- The term at the start, which may nest so deep, and what follows it. -/
def readTerm : Nat → Nat → List Char → Option (Term × List Char)
  | 0, _, _ => none
  | budget + 1, depth, cs =>
    match cs with
    | '"' :: _ => (readText cs).map fun (s, cs) => (.text s, cs)
    | '\'' :: _ => (readText cs).map fun (s, cs) => (.text s, cs)
    | '[' :: cs =>
      if depth = 0 then none
      else (readItems budget (depth - 1) cs).map fun (terms, cs) => (.array terms, cs)
    | '\x7b' :: cs =>
      if depth = 0 then none
      else (readFields budget (depth - 1) cs).map fun (fields, cs) => (.table fields, cs)
    | cs =>
      let (word, cs) := takeWord cs
      if word.isEmpty then none else some (.word word, cs)

/-- The items up to the closing bracket, and what follows it. -/
def readItems : Nat → Nat → List Char → Option (List Term × List Char)
  | 0, _, _ => none
  | budget + 1, depth, cs =>
    match skipFiller false cs with
    | none => none
    | some (']' :: cs) => some ([], cs)
    | some cs =>
      match readTerm budget depth cs with
      | none => none
      | some (term, cs) =>
        match skipFiller false cs with
        | some (',' :: cs) => (readItems budget depth cs).map fun (terms, cs) => (term :: terms, cs)
        | some (']' :: cs) => some ([term], cs)
        | _ => none

/-- The fields up to the closing brace, and what follows it. -/
def readFields : Nat → Nat → List Char → Option (List (List String × Term) × List Char)
  | 0, _, _ => none
  | budget + 1, depth, cs =>
    match skipFiller false cs with
    | none => none
    | some ('\x7d' :: cs) => some ([], cs)
    | some cs =>
      match readKey (cs.length + 1) cs with
      | none => none
      | some (path, cs) =>
        match afterEquals? cs with
        | none => none
        | some cs =>
          match readTerm budget depth cs with
          | none => none
          | some (term, cs) =>
            match skipFiller false cs with
            | some (',' :: cs) =>
              (readFields budget depth cs).map fun (fields, cs) => ((path, term) :: fields, cs)
            | some ('\x7d' :: cs) => some ([(path, term)], cs)
            | _ => none

end

/-! ## Lines -/

/-- What one line says. -/
inductive Line where
  | nothing
  | field (path : List String) (term : Term)
  | table (path : List String)
  | item (path : List String)

/-- What follows the end of a line: blanks and a comment may come before it. -/
def endLine (cs : List Char) : Option (List Char) :=
  let rest :=
    match skipBlanks cs with
    | '#' :: cs => cs.dropWhile isTextChar
    | cs => cs
  if rest = [] then some [] else afterBreak? rest

/-- The line at the start, without its end, and what follows. -/
def readStart (cs : List Char) : Option (Line × List Char) :=
  match skipBlanks cs with
  | [] => some (.nothing, [])
  | '\n' :: _ => some (.nothing, cs)
  | '\r' :: _ => some (.nothing, cs)
  | '#' :: _ => some (.nothing, cs)
  | '[' :: '[' :: cs =>
    match readKey (cs.length + 1) cs with
    | some (path, ']' :: ']' :: cs) => some (.item path, cs)
    | _ => none
  | '[' :: cs =>
    match readKey (cs.length + 1) cs with
    | some (path, ']' :: cs) => some (.table path, cs)
    | _ => none
  | cs =>
    match readKey (cs.length + 1) cs with
    | some (path, '=' :: cs) =>
      (readTerm (2 * cs.length + 2) maxDepth (skipBlanks cs)).map fun (term, cs) =>
        (.field path term, cs)
    | _ => none

/-- All lines. -/
def readLines : Nat → List Char → Option (List Line)
  | 0, _ => none
  | _, [] => some []
  | budget + 1, cs =>
    match readStart cs with
    | none => none
    | some (line, cs) =>
      match endLine cs with
      | none => none
      | some cs => (readLines budget cs).map (line :: ·)

/-- A root table and the path that the last header named. -/
structure Draft where
  root : Table := []
  header : List String := []

/-- Add what a line says. -/
def Draft.add (d : Draft) : Line → Except Fault Draft
  | .nothing => .ok d
  | .field path term => do
    checkKey path
    let v ← term.value
    let root ← orMalformed (d.root.defineField d.header path v)
    return { d with root := root }
  | .table path => do
    checkKey path
    let root ← orMalformed (d.root.defineTable path)
    return ⟨root, path⟩
  | .item path => do
    checkKey path
    let root ← orMalformed (d.root.defineItem path)
    return ⟨root, path⟩

/-- Whether a carriage return stands without a line feed after it. -/
def hasLoneReturn : List Char → Bool
  | [] => false
  | '\r' :: '\n' :: cs => hasLoneReturn cs
  | '\r' :: _ => true
  | _ :: cs => hasLoneReturn cs

/-- Without the byte order mark at the start, if there is one. -/
def dropMark : List Char → List Char
  | '\uFEFF' :: cs => cs
  | cs => cs

/-- The lines of a document; none if it is malformed. -/
def lines? (document : String) : Option (List Line) :=
  let cs := dropMark document.toList
  if hasLoneReturn cs then none else readLines (cs.length + 1) cs

/-- The root table of a document. -/
def parse (document : String) : Except Fault Table := do
  let lines ← orMalformed (lines? document)
  let d ← lines.foldlM Draft.add {}
  return d.root

end DashIndex.Toml
