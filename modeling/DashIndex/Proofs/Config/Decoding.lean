import DashIndex.Config.Decoding
import DashIndex.Proofs.Toml.Root

/-!
# A configuration overrides the defaults field by field

Two defaults stand one above the other: a section may be missing, and so may a
setting in a section that is there. `given?` puts the two together and says what a
document gives for a setting, whether the section is a table or an array. With
that, decoding is four independent readings over one check of the sections, and
each setting depends on what is given for it and on nothing else.

A date is a section as well, one without settings. An array of tables is not: it
starts with a table, which is not what the first setting of either section is.
-/

namespace DashIndex.Config

open Toml (Value Table TableKind)

/-- What can be a section: a table, a plain array, or a date or time, which gives nothing. -/
inductive IsSection : Value → Prop where
  | table (kind : TableKind) (t : Table) : IsSection (.table kind t)
  | array (items : List Value) : IsSection (.array false items)
  | datetime (spelled : String) : IsSection (.datetime spelled)

/-- What a document gives for a setting: by its key in a table, by its place in an array. -/
def given? (root : Table) (name : String) (place : Nat) (key : String) : Option Value :=
  match Table.get? root name with
  | some (.table _ t) => Table.get? t key
  | some (.array _ items) => items[place]?
  | _ => none

/-- Everything that the document gives, sections included, has its type. -/
structure WellTyped (root : Table) : Prop where
  search : ∀ v, root.get? "search" = some v → IsSection v
  extensions : ∀ v, root.get? "extensions" = some v → IsSection v
  defaultSort : ∀ v, given? root "search" 0 "default_sort" = some v → ∃ s, v = .text s
  defaultLimit : ∀ v, given? root "search" 1 "default_limit" = some v →
    ∃ n : Int, v = .integer n ∧ 0 ≤ n ∧ n < UInt64.size
  usageInsights : ∀ v, given? root "extensions" 0 "usage_insights" = some v → ∃ b, v = .boolean b
  dbPath : ∀ v, root.get? "db_path" = some v → ∃ s, v = .text s

/-- Each setting is what the document gives for it, or its default if that is nothing. -/
structure Overrides (root : Table) (c : Config) : Prop where
  defaultSort : ∃ o : Option String,
    given? root "search" 0 "default_sort" = o.map .text ∧ c.defaultSort = o.getD "alpha-asc"
  defaultLimit : ∃ o : Option UInt64,
    given? root "search" 1 "default_limit" = o.map (.integer ·.toNat) ∧ c.defaultLimit = o.getD 50
  usageInsights : ∃ o : Option Bool,
    given? root "extensions" 0 "usage_insights" = o.map .boolean ∧ c.usageInsights = o.getD true
  dbPath : root.get? "db_path" = c.dbPath.map .text

/--
Two ways to write a section with the same settings: tables that have the same values
under the known keys, or an array of the values that a table has under them. What else
there is, under other keys or further on in the array, does not count.
-/
inductive Alike (keys : List String) : Option Value → Option Value → Prop where
  | same (given : Option Value) : Alike keys given given
  | tables {kind kind' : TableKind} {t t' : Table} (h : ∀ key ∈ keys, t.get? key = t'.get? key) :
      Alike keys (some (.table kind t)) (some (.table kind' t'))
  | array {items : List Value} {kind : TableKind} {t : Table}
      (h : ∀ (place : Nat) (key : String), keys[place]? = some key → t.get? key = items[place]?) :
      Alike keys (some (.array false items)) (some (.table kind t))

/-- Two documents with the same settings. -/
structure SameSettings (root root' : Table) : Prop where
  search : Alike ["default_sort", "default_limit"] (root.get? "search") (root'.get? "search")
  extensions : Alike ["usage_insights"] (root.get? "extensions") (root'.get? "extensions")
  dbPath : root.get? "db_path" = root'.get? "db_path"

/-! ## One setting -/

theorem text?_eq_some {v : Value} {s : String} : text? v = some s ↔ v = .text s := by
  cases v <;> simp [text?]

theorem boolean?_eq_some {v : Value} {b : Bool} : boolean? v = some b ↔ v = .boolean b := by
  cases v <;> simp [boolean?]

theorem limit?_eq_some {v : Value} {n : UInt64} : limit? v = some n ↔ v = .integer n.toNat := by
  cases v with
  | integer m =>
      rw [limit?, Value.integer.injEq]
      have hn := n.toNat_lt
      constructor
      · intro h
        split at h
        · rename_i hm
          rw [← Option.some.inj h, UInt64.toNat_ofNat']
          unfold Text.maxUInt64 at hm
          omega
        · exact absurd h (by simp)
      · rintro rfl
        rw [if_pos (by unfold Text.maxUInt64; omega)]
        simp
  | _ => simp [limit?]

section

variable {α : Type} {read : Value → Option α} {spell : α → Value}

/-- A setting is absent, or it is read as what is spelled there. -/
theorem setting?_eq_some (hread : ∀ v a, read v = some a ↔ v = spell a) {t : Table} {key : String}
    {o : Option α} : setting? t key read = some o ↔ t.get? key = o.map spell := by
  unfold setting?
  cases t.get? key with
  | none => cases o <;> simp
  | some v => cases o <;> simp [hread]

/-- Everything that may be given is spelled by a value of the right type. -/
theorem exists_map_eq {given : Option Value} :
    (∃ o : Option α, given = o.map spell) ↔ ∀ v, given = some v → ∃ a, v = spell a := by
  constructor
  · rintro ⟨o, rfl⟩ v hv
    obtain ⟨a, _, rfl⟩ := Option.map_eq_some_iff.mp hv
    exact ⟨a, rfl⟩
  · intro h
    cases given with
    | none => exact ⟨none, rfl⟩
    | some v =>
        obtain ⟨a, rfl⟩ := h v rfl
        exact ⟨some a, rfl⟩

end

/-! ## A section -/

/-- An array gives the value of a key at the place of the key. -/
theorem get?_zip {keys : List String} (hkeys : keys.Nodup) {items : List Value} {place : Nat}
    {key : String} (h : keys[place]? = some key) :
    Table.get? (keys.zip items) key = items[place]? := by
  induction keys generalizing items place with
  | nil => exact absurd h (by simp)
  | cons k keys ih =>
      obtain ⟨hk, hkeys⟩ := List.nodup_cons.mp hkeys
      cases items with
      | nil => rw [List.zip_nil_right]; rfl
      | cons v items =>
          rw [List.zip_cons_cons, Table.get?]
          cases place with
          | zero =>
              rw [if_pos (Option.some.inj h)]
              rfl
          | succ place =>
              rw [List.getElem?_cons_succ] at h
              have hne : k ≠ key := fun he => hk (he ▸ List.mem_of_getElem? h)
              rw [if_neg hne, ih hkeys h, List.getElem?_cons_succ]

/-- A section is decoded if it is one, or if it is an array of tables. -/
theorem section?_eq_some {keys : List String} {v : Value} :
    (∃ t, section? keys v = some t) ↔ IsSection v ∨ ∃ items, v = .array true items := by
  constructor
  · rintro ⟨t, h⟩
    cases v with
    | table kind t => exact Or.inl (.table kind t)
    | datetime spelled => exact Or.inl (.datetime spelled)
    | array ofTables items =>
        cases ofTables with
        | false => exact Or.inl (.array items)
        | true => exact Or.inr ⟨items, rfl⟩
    | _ => nomatch h
  · rintro (h | ⟨items, rfl⟩)
    · cases h with
      | table kind t => exact ⟨t, rfl⟩
      | array items => exact ⟨_, rfl⟩
      | datetime spelled => exact ⟨[], rfl⟩
    · exact ⟨_, rfl⟩

/-- **A decoded section holds what the document gives for its settings.** -/
theorem get?_section {root : Table} {name : String} {keys : List String} (hkeys : keys.Nodup)
    {o : Option Table} (h : setting? root name (section? keys) = some o) {place : Nat}
    {key : String} (hkey : keys[place]? = some key) :
    Table.get? (o.getD []) key = given? root name place key := by
  unfold setting? at h
  unfold given?
  cases hv : Table.get? root name with
  | none =>
      rw [hv] at h
      rw [← Option.some.inj h]
      rfl
  | some v =>
      rw [hv] at h
      obtain ⟨t, ht, rfl⟩ := Option.map_eq_some_iff.mp h
      cases v with
      | table kind t' =>
          obtain rfl := Option.some.inj ht
          rfl
      | datetime spelled =>
          obtain rfl := Option.some.inj ht
          rfl
      | array ofTables items =>
          obtain rfl := Option.some.inj ht
          exact get?_zip hkeys hkey
      | _ => nomatch ht

theorem sort_place : ["default_sort", "default_limit"][0]? = some "default_sort" := rfl

theorem limit_place : ["default_sort", "default_limit"][1]? = some "default_limit" := rfl

theorem usage_place : ["usage_insights"][0]? = some "usage_insights" := rfl

/-- **Decoding is a check of the two sections and four readings on their own.** -/
theorem ofTable_eq_some {root : Table} {c : Config} :
    ofTable root = some c
      ↔ (∃ o, setting? root "search" (section? ["default_sort", "default_limit"]) = some o)
        ∧ (∃ o, setting? root "extensions" (section? ["usage_insights"]) = some o)
        ∧ Overrides root c := by
  simp only [ofTable, Option.bind_eq_bind, Option.bind_eq_some_iff, Option.pure_def,
    Option.some.injEq]
  constructor
  · rintro ⟨search, hsearch, extensions, hextensions, sort, hsort, limit, hlimit, usage, husage,
      path, hpath, rfl⟩
    -- first what is read in a decoded section, then what the document gives for it there
    have hsort := (setting?_eq_some fun _ _ => text?_eq_some).mp hsort
    have hlimit := (setting?_eq_some fun _ _ => limit?_eq_some).mp hlimit
    have husage := (setting?_eq_some fun _ _ => boolean?_eq_some).mp husage
    have hpath := (setting?_eq_some fun _ _ => text?_eq_some).mp hpath
    rw [get?_section (by decide) hsearch sort_place] at hsort
    rw [get?_section (by decide) hsearch limit_place] at hlimit
    rw [get?_section (by decide) hextensions usage_place] at husage
    exact ⟨⟨search, hsearch⟩, ⟨extensions, hextensions⟩,
      ⟨⟨sort, hsort, rfl⟩, ⟨limit, hlimit, rfl⟩, ⟨usage, husage, rfl⟩, hpath⟩⟩
  · rintro ⟨⟨search, hsearch⟩, ⟨extensions, hextensions⟩,
      ⟨⟨sort, hsort, hc₁⟩, ⟨limit, hlimit, hc₂⟩, ⟨usage, husage, hc₃⟩, hpath⟩⟩
    rw [← get?_section (by decide) hsearch sort_place] at hsort
    rw [← get?_section (by decide) hsearch limit_place] at hlimit
    rw [← get?_section (by decide) hextensions usage_place] at husage
    refine ⟨search, hsearch, extensions, hextensions,
      sort, (setting?_eq_some fun _ _ => text?_eq_some).mpr hsort,
      limit, (setting?_eq_some fun _ _ => limit?_eq_some).mpr hlimit,
      usage, (setting?_eq_some fun _ _ => boolean?_eq_some).mpr husage,
      c.dbPath, (setting?_eq_some fun _ _ => text?_eq_some).mpr hpath, ?_⟩
    rw [Config.mk.injEq]
    exact ⟨hc₁.symm, hc₂.symm, hc₃.symm, rfl⟩

/-! ## Documents -/

/--
In a document, a section that is decoded is one, if its first setting is never a table:
an array of tables would give a table for it.
-/
theorem isSection_of_given {α : Type} {spell : α → Value} {root : Table} (hroot : root.Sound)
    {name key : String} {keys : List String} (hspell : ∀ a kind t, spell a ≠ .table kind t)
    (hfirst : ∃ o : Option α, given? root name 0 key = o.map spell)
    (hsection : ∃ o, setting? root name (section? keys) = some o) :
    ∀ v, root.get? name = some v → IsSection v := by
  intro v hv
  obtain ⟨o, ho⟩ := hsection
  unfold setting? at ho
  rw [hv] at ho
  obtain ⟨t, ht, _⟩ := Option.map_eq_some_iff.mp ho
  rcases section?_eq_some.mp ⟨t, ht⟩ with hv' | ⟨items, rfl⟩
  · exact hv'
  · -- the first of the tables would be what is given for the first setting
    obtain ⟨kind, sub, rest, rfl⟩ := hroot name _ hv items rfl
    unfold given? at hfirst
    rw [hv] at hfirst
    obtain ⟨a, ha⟩ := exists_map_eq.mp hfirst _ rfl
    exact absurd ha.symm (hspell a kind sub)

/-- A section of a document is decoded. -/
theorem exists_setting?_section {root : Table} {name : String} {keys : List String}
    (h : ∀ v, root.get? name = some v → IsSection v) :
    ∃ o, setting? root name (section? keys) = some o := by
  unfold setting?
  cases hv : Table.get? root name with
  | none => exact ⟨none, rfl⟩
  | some v =>
      obtain ⟨t, ht⟩ := section?_eq_some.mpr (Or.inl (h v hv))
      exact ⟨some t, Option.map_eq_some_iff.mpr ⟨t, ht, rfl⟩⟩

theorem ofTable_eq_some_iff_wellTyped {root : Table} (hroot : root.Sound) {c : Config} :
    ofTable root = some c ↔ WellTyped root ∧ Overrides root c := by
  rw [ofTable_eq_some]
  constructor
  · rintro ⟨hsearch, hextensions, hc⟩
    obtain ⟨sort, hsort, _⟩ := hc.defaultSort
    obtain ⟨limit, hlimit, _⟩ := hc.defaultLimit
    obtain ⟨usage, husage, _⟩ := hc.usageInsights
    refine ⟨⟨?_, ?_, exists_map_eq.mp ⟨sort, hsort⟩, ?_, exists_map_eq.mp ⟨usage, husage⟩,
      exists_map_eq.mp ⟨_, hc.dbPath⟩⟩, hc⟩
    · exact isSection_of_given hroot (by simp) ⟨sort, hsort⟩ hsearch
    · exact isSection_of_given hroot (by simp) ⟨usage, husage⟩ hextensions
    · intro v hv
      obtain ⟨n, rfl⟩ := exists_map_eq.mp ⟨limit, hlimit⟩ v hv
      exact ⟨n.toNat, rfl, Int.natCast_nonneg _, Int.ofNat_lt.mpr n.toNat_lt_size⟩
  · rintro ⟨ht, hc⟩
    exact ⟨exists_setting?_section ht.search, exists_setting?_section ht.extensions, hc⟩

/-- A document whose values have their types overrides some defaults. -/
theorem WellTyped.exists_overrides {root : Table} (h : WellTyped root) :
    ∃ c, Overrides root c := by
  obtain ⟨sort, hsort⟩ := exists_map_eq.mpr h.defaultSort
  obtain ⟨usage, husage⟩ := exists_map_eq.mpr h.usageInsights
  obtain ⟨path, hpath⟩ := exists_map_eq.mpr h.dbPath
  have hlimit : ∃ o : Option UInt64,
      given? root "search" 1 "default_limit" = o.map (.integer ·.toNat) := by
    refine exists_map_eq.mpr fun v hv => ?_
    obtain ⟨n, rfl, hn⟩ := h.defaultLimit v hv
    refine ⟨UInt64.ofNat n.toNat, ?_⟩
    unfold UInt64.size at hn
    rw [Value.integer.injEq, UInt64.toNat_ofNat']
    omega
  obtain ⟨limit, hlimit⟩ := hlimit
  exact ⟨⟨sort.getD "alpha-asc", limit.getD 50, usage.getD true, path⟩,
    ⟨sort, hsort, rfl⟩, ⟨limit, hlimit, rfl⟩, ⟨usage, husage, rfl⟩, hpath⟩

section Alike

variable {root root' : Table} {name : String} {keys : List String}

/-- Sections that are alike are sections both, or neither is. -/
theorem Alike.isSection (h : Alike keys (root.get? name) (root'.get? name)) :
    (∀ v, root.get? name = some v → IsSection v)
      ↔ ∀ v, root'.get? name = some v → IsSection v := by
  generalize root.get? name = given at h
  generalize root'.get? name = given' at h
  cases h with
  | same => rfl
  | tables =>
      exact ⟨fun _ v hv => Option.some.inj hv ▸ .table _ _,
        fun _ v hv => Option.some.inj hv ▸ .table _ _⟩
  | array =>
      exact ⟨fun _ v hv => Option.some.inj hv ▸ .table _ _,
        fun _ v hv => Option.some.inj hv ▸ .array _⟩

/-- Sections that are alike give the same for each setting. -/
theorem Alike.given?_eq (h : Alike keys (root.get? name) (root'.get? name)) {place : Nat}
    {key : String} (hkey : keys[place]? = some key) :
    given? root name place key = given? root' name place key := by
  unfold given?
  generalize root.get? name = given at h
  generalize root'.get? name = given' at h
  cases h with
  | same => rfl
  | tables h => exact h key (List.mem_of_getElem? hkey)
  | array h => exact (h place key hkey).symm

end Alike

theorem SameSettings.wellTyped_iff {root root' : Table} (h : SameSettings root root') :
    WellTyped root ↔ WellTyped root' := by
  have hsort := h.search.given?_eq sort_place
  have hlimit := h.search.given?_eq limit_place
  have husage := h.extensions.given?_eq usage_place
  constructor
  · intro ht
    exact ⟨h.search.isSection.mp ht.search, h.extensions.isSection.mp ht.extensions,
      hsort ▸ ht.defaultSort, hlimit ▸ ht.defaultLimit, husage ▸ ht.usageInsights,
      h.dbPath ▸ ht.dbPath⟩
  · intro ht
    exact ⟨h.search.isSection.mpr ht.search, h.extensions.isSection.mpr ht.extensions,
      hsort ▸ ht.defaultSort, hlimit ▸ ht.defaultLimit, husage ▸ ht.usageInsights,
      h.dbPath ▸ ht.dbPath⟩

theorem SameSettings.overrides_iff {root root' : Table} (h : SameSettings root root') {c : Config} :
    Overrides root c ↔ Overrides root' c := by
  have hsort := h.search.given?_eq sort_place
  have hlimit := h.search.given?_eq limit_place
  have husage := h.extensions.given?_eq usage_place
  constructor
  · intro hc
    exact ⟨hsort ▸ hc.defaultSort, hlimit ▸ hc.defaultLimit, husage ▸ hc.usageInsights,
      h.dbPath ▸ hc.dbPath⟩
  · intro hc
    exact ⟨hsort ▸ hc.defaultSort, hlimit ▸ hc.defaultLimit, husage ▸ hc.usageInsights,
      h.dbPath ▸ hc.dbPath⟩

theorem parse_of_root {document : String} {root : Table} (h : Toml.parse document = .ok root) :
    parse document = Toml.orMalformed (ofTable root) := by
  unfold parse
  rw [h]
  rfl

/--
**A configuration is a field-wise override of the defaults.**

A document with a root table is decoded exactly if what it gives for the settings has the
type of the setting, and then each setting is what is given for it, or else its default.
Documents that give the same, in whichever of the forms of a section, are decoded alike.
-/
theorem parse_overrides {document : String} {root : Table} (h : Toml.parse document = .ok root) :
    ((∃ c, parse document = .ok c) ↔ WellTyped root)
      ∧ (∀ c, parse document = .ok c → Overrides root c)
      ∧ ∀ document' root', Toml.parse document' = .ok root' → SameSettings root root' →
          parse document = parse document' := by
  have hok (c : Config) : parse document = .ok c ↔ WellTyped root ∧ Overrides root c := by
    rw [parse_of_root h, Toml.orMalformed_eq_ok, ofTable_eq_some_iff_wellTyped (Toml.parse_sound h)]
  refine ⟨⟨?_, fun ht => ?_⟩, fun c hc => ((hok c).mp hc).2, fun document' root' h' hsame => ?_⟩
  · rintro ⟨c, hc⟩
    exact ((hok c).mp hc).1
  · obtain ⟨c, hc⟩ := ht.exists_overrides
    exact ⟨c, (hok c).mpr ⟨ht, hc⟩⟩
  · rw [parse_of_root h, parse_of_root h']
    refine congrArg Toml.orMalformed (Option.ext fun c => ?_)
    rw [ofTable_eq_some_iff_wellTyped (Toml.parse_sound h),
      ofTable_eq_some_iff_wellTyped (Toml.parse_sound h'), hsame.wellTyped_iff, hsame.overrides_iff]

open Toml (readLines readStart endLine afterBreak? skipBlanks isBlankChar skipFiller readKey
  readKeyPart isKeyChar readTerm maxDepth readItems readText readQuoted readBasic isTextChar
  takeWord isWordChar parse_of_lines)

/-- A section as an array, and a table that is not known. -/
def arrayDocument : String := "search = [\"hot\"]\nnew.at = 1"

/-- The same section as a table, with a key that is not known. -/
def tableDocument : String := "[search]\nold = []\ndefault_sort = \"hot\""

theorem parse_arrayDocument :
    Toml.parse arrayDocument
      = .ok [("search", .array false [.text "hot"]), ("new", .table .dotted [("at", .integer 1)])] :=
  have hlines : readLines (arrayDocument.toList.length + 1) arrayDocument.toList
      = some [.field ["search"] (.array [.text "hot"]), .field ["new", "at"] (.word ['1'])] := by
    simp [arrayDocument, readLines, readStart, endLine, afterBreak?, skipBlanks, isBlankChar,
      skipFiller, readKey, readKeyPart, isKeyChar, readTerm, maxDepth, readItems, readText,
      readQuoted, readBasic, isTextChar, takeWord, isWordChar]
  parse_of_lines hlines rfl rfl rfl

theorem parse_tableDocument :
    Toml.parse tableDocument
      = .ok [("search", .table .header [("old", .array false []), ("default_sort", .text "hot")])] :=
  have hlines : readLines (tableDocument.toList.length + 1) tableDocument.toList
      = some [.table ["search"], .field ["old"] (.array []),
          .field ["default_sort"] (.text "hot")] := by
    simp [tableDocument, readLines, readStart, endLine, afterBreak?, skipBlanks, isBlankChar,
      skipFiller, readKey, readKeyPart, isKeyChar, readTerm, maxDepth, readItems, readText,
      readQuoted, readBasic, isTextChar]
  parse_of_lines hlines rfl rfl rfl

/-- How the section is written, and what is not known, makes no difference. -/
theorem parse_overrides_of_array :
    ∃ root root', Toml.parse arrayDocument = .ok root ∧ Toml.parse tableDocument = .ok root'
      ∧ SameSettings root root' ∧ WellTyped root ∧ Overrides root ⟨"hot", 50, true, none⟩
      ∧ parse tableDocument = .ok ⟨"hot", 50, true, none⟩ := by
  refine ⟨_, _, parse_arrayDocument, parse_tableDocument, ?_⟩
  obtain ⟨htyped, hoverrides, halike⟩ := parse_overrides parse_arrayDocument
  have hsame : SameSettings
      [("search", .array false [.text "hot"]), ("new", .table .dotted [("at", .integer 1)])]
      [("search", .table .header [("old", .array false []), ("default_sort", .text "hot")])] := by
    refine ⟨.array fun place key hkey => ?_, .same none, rfl⟩
    match place with
    | 0 => obtain rfl := Option.some.inj hkey; rfl
    | 1 => obtain rfl := Option.some.inj hkey; rfl
    | place + 2 => nomatch hkey
  have hc : parse arrayDocument = .ok ⟨"hot", 50, true, none⟩ := by
    rw [parse_of_root parse_arrayDocument]
    rfl
  exact ⟨hsame, htyped.mp ⟨_, hc⟩, hoverrides _ hc,
    (halike _ _ parse_tableDocument hsame).symm.trans hc⟩

/-- A date is a section, although it is neither a table nor an array. -/
theorem parse_of_date :
    ∃ root v, Toml.parse "search = 1979-05-27" = .ok root ∧ root.get? "search" = some v
      ∧ (∀ kind t, v ≠ .table kind t) ∧ (∀ ofTables items, v ≠ .array ofTables items)
      ∧ parse "search = 1979-05-27" = .ok {} := by
  have hlines : readLines ("search = 1979-05-27".toList.length + 1) "search = 1979-05-27".toList
      = some [.field ["search"] (.word "1979-05-27".toList)] := by
    simp [readLines, readStart, endLine, skipBlanks, isBlankChar, readKey, readKeyPart, isKeyChar,
      readTerm, takeWord, isWordChar]
  have hroot : Toml.parse "search = 1979-05-27" = .ok [("search", .datetime "1979-05-27")] :=
    parse_of_lines hlines rfl rfl rfl
  refine ⟨_, .datetime "1979-05-27", hroot, rfl, by simp, by simp, ?_⟩
  rw [parse_of_root hroot]
  rfl

end DashIndex.Config
