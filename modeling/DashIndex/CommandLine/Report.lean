import DashIndex.CommandLine.Invocation
import DashIndex.Json.Printer
import DashIndex.Store.Search
import DashIndex.Toml.Term

/-!
# What the commands print

The options are printed as a table of three columns or as an array; hits as a
line each, with tabs between the fields, or as an array. What the reader of
arguments, the generator of completion scripts and the reader of configuration
documents have to say is in their own words, which are a parameter.
-/

namespace DashIndex

/-- A sort option as an object. -/
def SortOption.toJson (o : SortOption) : Json :=
  .object
    [("name", .string o.name), ("displayName", .string o.displayName),
      ("description", .string o.description), ("index", .integer o.index.toInt),
      ("meta", .string o.metaName)]

namespace CommandLine

/-- A text with blanks after it, up to a width in characters. -/
def padTo (width : Nat) (s : String) : String :=
  s ++ String.ofList (List.replicate (width - s.length) ' ')

/-- A sort option as a line of the table. -/
def optionLine (o : SortOption) : String :=
  padTo 14 o.name ++ " " ++ padTo 24 o.displayName ++ " " ++ o.description ++ "\n"

/-- A hit as a line. -/
def hitLine (h : Hit) : String :=
  let shown :=
    match h.sortMetaName, h.sortMeta with
    | some name, some value => "  [" ++ name ++ ": " ++ toString value.toInt ++ "]"
    | _, _ => ""
  h.uid ++ "\t" ++ h.folder.getD "-" ++ "\t" ++ h.title ++ shown ++ "\n"

/-- Values as an array on lines of their own. -/
def jsonLines (vs : List Json) : String :=
  (Json.array vs).pretty ++ "\n"

/-- The sort options. -/
def reportOptions (json : Bool) (os : List SortOption) : String :=
  if json then jsonLines (os.map SortOption.toJson) else String.join (os.map optionLine)

/-- The hits of a search. -/
def reportHits (json : Bool) (hits : List Hit) : String :=
  if json then jsonLines (hits.map Hit.toJson) else String.join (hits.map hitLine)

/-- The words of others. -/
structure Wording where
  /-- the help that arguments ask for -/
  help : (args : List String) → String
  /-- why arguments were not understood -/
  usage : (args : List String) → UsageError → String
  /-- a script that completes the commands in a shell -/
  completions : Shell → String
  /-- what is wrong with a configuration document -/
  document : Toml.Reporter

/-- The name and the version of the program. -/
def versionText : String := "dsearch 0.1.0\n"

end CommandLine

end DashIndex
