/-!
# Paths

A path is a text whose segments stand between slashes. An empty segment and a
`.` name nothing, except a `.` at the start of a relative path, which names the
working directory; `..` names the directory above.
-/

namespace DashIndex.Path

/-- Whether a path starts at the root. -/
def isAbsolute (path : String) : Bool :=
  path.toList.head? == some '/'

/-- Split at the slashes; `segment` is the segment read so far, in reverse. -/
def splitFrom (segment : List Char) : List Char → List String
  | [] => [String.ofList segment.reverse]
  | '/' :: cs => String.ofList segment.reverse :: splitFrom [] cs
  | c :: cs => splitFrom (c :: segment) cs

/-- The segments between the slashes, of an absolute path without the root. -/
def segments (path : String) : List String :=
  match path.toList with
  | '/' :: cs => splitFrom [] cs
  | cs => splitFrom [] cs

/-- A path below another one; an absolute path stands for itself. -/
def join (base path : String) : String :=
  if isAbsolute path || base = "" then path
  else if base.toList.getLast? = some '/' then base ++ path
  else base ++ "/" ++ path

/-- The greatest number of bytes of a segment. -/
def maxSegment : Nat := 255

/-- The greatest number of bytes of a path. -/
def maxPath : Nat := 4095

/-- Whether a segment names nothing. -/
def isIdle (segment : String) : Bool :=
  segment = "" || segment = "."

/-- The segments up to the last that names something, a leading `.` of a relative path included. -/
def dropIdle (absolute : Bool) (segments : List String) : List String :=
  match (segments.reverse.dropWhile isIdle).reverse, segments with
  | [], "." :: _ => if absolute then [] else ["."]
  | named, _ => named

/-- The directory that holds the last named segment; none for the root and the empty path. -/
def parent? (path : String) : Option String :=
  let absolute := isAbsolute path
  match dropIdle absolute (segments path) with
  | [] => none
  | named =>
    some ((if absolute then "/" else "")
      ++ "/".intercalate (dropIdle absolute named.dropLast))

/-- The path and the directories above it, the longest first, down to `fuel` of them. -/
def upwards : Nat → String → List String
  | 0, _ => []
  | fuel + 1, path =>
    match parent? path with
    | none => [path]
    | some parent => path :: upwards fuel parent

/-- The path and all directories above it that it names, the longest first. -/
def ancestors (path : String) : List String :=
  (upwards (segments path).length path).filter fun p => p != "" && p != "/"

example : parent? "new//deep/d.db" = some "new//deep" := by decide
example : parent? "d.db" = some "" ∧ parent? "./d.db" = some "." := by decide
example : parent? "/d.db" = some "/" := by decide
example : parent? "" = none ∧ parent? "/" = none ∧ parent? "." = some "" := by decide
example : parent? "a/./b/." = some "a" ∧ parent? "a/.." = some "a" := by decide
example : ancestors "a/b/c" = ["a/b/c", "a/b", "a"] := by decide
example : join "/home/u/" ".config" = "/home/u/.config" ∧ join "" "x" = "x" := by decide

end DashIndex.Path
