import DashIndex.Config.Basic
import DashIndex.Text.Integer
import DashIndex.Toml.Document

/-!
# Reading the configuration

Each setting that the document gives overrides its default, independently of the
others; keys that are not known do not count. A section is a table, or an array
that gives its settings in their order.
-/

namespace DashIndex.Config

/-- A key of a table with a reader: absent is fine, ill-typed is not. -/
def setting? {α : Type} (t : Toml.Table) (key : String) (read : Toml.Value → Option α) :
    Option (Option α) :=
  match t.get? key with
  | none => some none
  | some v => (read v).map some

/-- A text. -/
def text? : Toml.Value → Option String
  | .text s => some s
  | _ => none

/-- A number that limits how many hits are shown. -/
def limit? : Toml.Value → Option UInt64
  | .integer n => if 0 ≤ n ∧ n ≤ Text.maxUInt64 then some (UInt64.ofNat n.toNat) else none
  | _ => none

/-- Yes or no. -/
def boolean? : Toml.Value → Option Bool
  | .boolean b => some b
  | _ => none

/--
A section as a table: the items of an array stand for its settings in their
order. A date is a section that gives none of them.
-/
def section? (keys : List String) : Toml.Value → Option Toml.Table
  | .table _ t => some t
  | .array _ items => some (keys.zip items)
  | .datetime _ => some []
  | _ => none

/-- The settings that a document gives, over the defaults. -/
def ofTable (root : Toml.Table) : Option Config := do
  let search ← setting? root "search" (section? ["default_sort", "default_limit"])
  let extensions ← setting? root "extensions" (section? ["usage_insights"])
  let defaultSort ← setting? (search.getD []) "default_sort" text?
  let defaultLimit ← setting? (search.getD []) "default_limit" limit?
  let usageInsights ← setting? (extensions.getD []) "usage_insights" boolean?
  let dbPath ← setting? root "db_path" text?
  let base : Config := {}
  return ⟨defaultSort.getD base.defaultSort, defaultLimit.getD base.defaultLimit,
    usageInsights.getD base.usageInsights, dbPath⟩

/-- The configuration that a document spells; a setting of another type counts as malformed. -/
def parse (document : String) : Except Toml.Fault Config := do
  let root ← Toml.parse document
  Toml.orMalformed (ofTable root)

end DashIndex.Config
