import DashIndex.Json.Reader

/-!
# Quoted texts of TOML

Between double quotes a backslash starts an escape; between single quotes every
character stands for itself. A text between three quotes may run over several
lines: a line break right after the opening quotes is left out, one or two
quotes may stand anywhere in it, and between double quotes a backslash at the
end of a line takes the line break and all blanks after it away.

A line break is a line feed or a carriage return and a line feed, and stands in
a text as it was written. The document makes sure that no carriage return stands
alone, so here one is always half of a line break.
-/

namespace DashIndex.Toml

/-- A character that may stand in a text or a comment: a tab or no control character. -/
def isTextChar (c : Char) : Bool :=
  c == '\t' || (0x20 ≤ c.toNat && c.toNat != 0x7F)

/-- A blank within a line. -/
def isBlankChar (c : Char) : Bool := c == ' ' || c == '\t'

/-- A character of a line break. -/
def isBreakChar (c : Char) : Bool := c == '\n' || c == '\r'

/-- What follows the line break at the start, if there is one. -/
def afterBreak? : List Char → Option (List Char)
  | '\n' :: cs => some cs
  | '\r' :: '\n' :: cs => some cs
  | _ => none

/-- The character that an escape of one letter stands for. -/
def shortEscape? (c : Char) : Option Char :=
  match c with
  | 'b' => some '\x08'
  | 't' => some '\t'
  | 'n' => some '\n'
  | 'f' => some '\x0c'
  | 'r' => some '\r'
  | 'e' => some '\x1b'
  | '"' => some '"'
  | '\\' => some '\\'
  | _ => none

/-- The value of hexadecimal digits; none if one is something else. -/
def hexNumber? (ds : List Char) : Option Nat :=
  ds.foldl (fun v d => v.bind fun v => (Json.hexValue? d).map (v * 16 + ·)) (some 0)

/-- The character whose code point the first `count` digits spell, and what follows them. -/
def codePoint? (count : Nat) (cs : List Char) : Option (Char × List Char) :=
  if (cs.take count).length = count then
    ((hexNumber? (cs.take count)).bind Json.charOf?).map fun c => (c, cs.drop count)
  else none

/-- The character that an escape stands for, after its backslash, and what follows it. -/
def readEscape : List Char → Option (Char × List Char)
  | 'x' :: cs => codePoint? 2 cs
  | 'u' :: cs => codePoint? 4 cs
  | 'U' :: cs => codePoint? 8 cs
  | c :: cs => (shortEscape? c).map fun c => (c, cs)
  | [] => none

/-- The text up to the closing double quote, and what follows it. -/
def readBasic : Nat → List Char → List Char → Option (String × List Char)
  | 0, _, _ => none
  | budget + 1, acc, cs =>
    match cs with
    | '"' :: cs => some (String.ofList acc.reverse, cs)
    | '\\' :: cs =>
      match readEscape cs with
      | some (c, cs) => readBasic budget (c :: acc) cs
      | none => none
    | c :: cs => if isTextChar c then readBasic budget (c :: acc) cs else none
    | [] => none

/-- The text up to the closing single quote, and what follows it. -/
def readLiteral (acc : List Char) : List Char → Option (String × List Char)
  | '\'' :: cs => some (String.ofList acc.reverse, cs)
  | c :: cs => if isTextChar c then readLiteral (c :: acc) cs else none
  | [] => none

/-- How many of a quote the characters start with. -/
def quoteRun (quote : Char) (cs : List Char) : Nat :=
  (cs.takeWhile (· == quote)).length

/--
What a run of quotes in a text between three quotes comes to: fewer than three
belong to the text; three to five close it, those before the last three being
part of it; more are a fault.
-/
inductive QuoteRun where
  | inside
  | closing (kept : Nat)
  | fault
  deriving DecidableEq, Repr

/-- The meaning of a run of so many quotes. -/
def QuoteRun.ofCount (n : Nat) : QuoteRun :=
  if n < 3 then .inside else if n ≤ 5 then .closing (n - 3) else .fault

/-- The lines up to three closing double quotes, and what follows them. -/
def readBasicLines : Nat → List Char → List Char → Option (String × List Char)
  | 0, _, _ => none
  | budget + 1, acc, cs =>
    match cs with
    | '"' :: _ =>
      let n := quoteRun '"' cs
      match QuoteRun.ofCount n with
      | .inside => readBasicLines budget (List.replicate n '"' ++ acc) (cs.drop n)
      | .closing kept => some (String.ofList (List.replicate kept '"' ++ acc).reverse, cs.drop n)
      | .fault => none
    | '\\' :: cs =>
      match afterBreak? (cs.dropWhile isBlankChar) with
      | some after =>
        readBasicLines budget acc (after.dropWhile fun c => isBlankChar c || isBreakChar c)
      | none =>
        match readEscape cs with
        | some (c, cs) => readBasicLines budget (c :: acc) cs
        | none => none
    | c :: cs =>
      if isTextChar c || isBreakChar c then readBasicLines budget (c :: acc) cs else none
    | [] => none

/-- The lines up to three closing single quotes, and what follows them. -/
def readLiteralLines : Nat → List Char → List Char → Option (String × List Char)
  | 0, _, _ => none
  | budget + 1, acc, cs =>
    match cs with
    | '\'' :: _ =>
      let n := quoteRun '\'' cs
      match QuoteRun.ofCount n with
      | .inside => readLiteralLines budget (List.replicate n '\'' ++ acc) (cs.drop n)
      | .closing kept => some (String.ofList (List.replicate kept '\'' ++ acc).reverse, cs.drop n)
      | .fault => none
    | c :: cs =>
      if isTextChar c || isBreakChar c then readLiteralLines budget (c :: acc) cs else none
    | [] => none

/-- Without the line break at the start, if there is one. -/
def dropLineBreak (cs : List Char) : List Char :=
  (afterBreak? cs).getD cs

/-- A quoted text on one line, and what follows it. -/
def readQuoted : List Char → Option (String × List Char)
  | '"' :: cs => readBasic (cs.length + 1) [] cs
  | '\'' :: cs => readLiteral [] cs
  | _ => none

/-- A quoted text on one line or several, and what follows it. -/
def readText (cs : List Char) : Option (String × List Char) :=
  match cs with
  | '"' :: '"' :: '"' :: cs => readBasicLines (cs.length + 1) [] (dropLineBreak cs)
  | '\'' :: '\'' :: '\'' :: cs => readLiteralLines (cs.length + 1) [] (dropLineBreak cs)
  | _ => readQuoted cs

end DashIndex.Toml
