import DashIndex.Proofs.CommandLine.Scan

/-!
# A command line written out and read back

What is written of an invocation is laid out in columns, one for every option of its
command and one for each of the two places. A column has a flag, or the values of its
option each in an argument of its own. The columns of an invocation bear different
names, so the values of an option can be found again in whatever order the arguments
stand; only within the column of the tags does the order matter.

An invocation comes back because a row of options is taken as it stands, before the
command and after it, and because the values of each option are the ones of its
column. A place may stand on either side. The query follows two dashes and so is
never taken for anything else.
-/

namespace DashIndex.CommandLine

/-! ## Columns -/

/-- What is written of one option. -/
structure Column where
  name : String
  entries : List Written
  named : ∀ w ∈ entries, w.name = name

namespace Column

/-- A flag, which stands or not. -/
def flag (n : String) (stands : Bool) : Column where
  name := n
  entries := if stands then [.flag n] else []
  named := by cases stands <;> simp [Written.name]

/-- An option with all its values. -/
def many (n : String) (vs : List String) : Column where
  name := n
  entries := vs.map (.valued n)
  named := by simp [Written.name]

/-- An option with its value, if it has one. -/
def one (n : String) (v : Option String) : Column := many n v.toList

@[simp]
theorem name_flag (n : String) (b : Bool) : (flag n b).name = n := rfl

@[simp]
theorem name_many (n : String) (vs : List String) : (many n vs).name = n := rfl

@[simp]
theorem name_one (n : String) (v : Option String) : (one n v).name = n := rfl

def values (c : Column) : List String := c.entries.map Written.value

theorem values_many (n : String) (vs : List String) : (many n vs).values = vs := by
  have hvalue : Written.value ∘ Written.valued n = id := rfl
  rw [values, many, List.map_map, hvalue, List.map_id]

theorem head?_values_one (n : String) (v : Option String) : (one n v).values.head? = v := by
  rw [one, values_many, Option.head?_toList]

theorem isEmpty_values_flag (n : String) (b : Bool) : (flag n b).values.isEmpty = !b := by
  cases b <;> rfl

/-- A grammar takes everything that the column has. -/
structure Fits (g : Grammar) (c : Column) : Prop where
  entries : ∀ w ∈ c.entries, w.Fits g
  once : g.repeats c.name = false → c.values.length ≤ 1

theorem fits_flag {g : Grammar} {n : String} (h : g.find? n = some ⟨n, .nothing⟩) (b : Bool) :
    (flag n b).Fits g where
  entries := by
    intro w hw
    cases b with
    | false => exact absurd hw List.not_mem_nil
    | true =>
        rw [List.mem_singleton.mp hw]
        exact .flag h
  once := by
    intro _
    cases b with
    | false => exact Nat.zero_le 1
    | true => exact Nat.le_refl 1

theorem fits_many {g : Grammar} {n : String} {kind : ValueKind}
    (h : g.find? n = some ⟨n, .many kind⟩) {vs : List String}
    (hvs : ∀ v ∈ vs, kind.check v = .ok ()) : (many n vs).Fits g where
  entries := by
    intro w hw
    obtain ⟨v, hv, rfl⟩ := List.mem_map.mp hw
    exact .repeated h (hvs v hv)
  once := by
    intro hsingle
    rw [name_many, Grammar.repeats, h] at hsingle
    exact absurd hsingle (by simp)

theorem fits_one {g : Grammar} {n : String} {kind : ValueKind}
    (h : g.find? n = some ⟨n, .one kind⟩) {v : Option String}
    (hv : ∀ x, v = some x → kind.check x = .ok ()) : (one n v).Fits g where
  entries := by
    intro w hw
    obtain ⟨x, hx, rfl⟩ := List.mem_map.mp hw
    exact .once h (hv x (Option.mem_toList.mp hx))
  once := by
    intro _
    rw [one, values_many]
    cases v with
    | none => exact Nat.zero_le 1
    | some x => exact Nat.le_refl 1

end Column

/-- All that stands in the columns. -/
def row (cs : List Column) : List Written := cs.flatMap Column.entries

theorem valuesIn_entries (c : Column) (n : String) :
    valuesIn c.entries n = if c.name = n then c.values else [] := by
  by_cases h : c.name = n
  · have hall : c.entries.filter (·.name == n) = c.entries := by
      refine List.filter_eq_self.mpr fun w hw => ?_
      rw [c.named w hw, h]
      exact beq_self_eq_true n
    rw [if_pos h, valuesIn, hall]
    rfl
  · rw [if_neg h, valuesIn_eq_nil]
    intro w hw
    rw [c.named w hw]
    exact h

/-- In columns of different names the values of an option are those of its column. -/
theorem valuesIn_row {cs : List Column} (hnames : (cs.map Column.name).Nodup) {c : Column}
    (hc : c ∈ cs) : valuesIn (row cs) c.name = c.values := by
  induction cs with
  | nil => exact absurd hc List.not_mem_nil
  | cons d cs ih =>
      obtain ⟨hd, hrest⟩ := List.nodup_cons.mp hnames
      have hcons : row (d :: cs) = d.entries ++ row cs := rfl
      rw [hcons, valuesIn_append, valuesIn_entries]
      rcases List.mem_cons.mp hc with rfl | hc
      · have hother : valuesIn (row cs) c.name = [] := by
          refine valuesIn_eq_nil.mpr fun w hw hname => ?_
          obtain ⟨e, he, hwe⟩ := List.mem_flatMap.mp hw
          rw [e.named w hwe] at hname
          exact hd (List.mem_map.mpr ⟨e, he, hname⟩)
        rw [if_pos rfl, hother, List.append_nil]
      · have hne : d.name ≠ c.name := fun h => hd (List.mem_map.mpr ⟨c, hc, h.symm⟩)
        rw [if_neg hne, ih hrest hc]
        rfl

theorem fitsRow_row {g : Grammar} {cs : List Column} (hnames : (cs.map Column.name).Nodup)
    (hfits : ∀ c ∈ cs, c.Fits g) : FitsRow g (row cs) where
  fits := by
    intro w hw
    obtain ⟨c, hc, hwc⟩ := List.mem_flatMap.mp hw
    exact (hfits c hc).entries w hwc
  once := by
    intro n hsingle
    by_cases hn : ∃ c ∈ cs, c.name = n
    · obtain ⟨c, hc, rfl⟩ := hn
      rw [valuesIn_row hnames hc]
      exact (hfits c hc).once hsingle
    · have hnone : valuesIn (row cs) n = [] := by
        refine valuesIn_eq_nil.mpr fun w hw hname => hn ?_
        obtain ⟨c, hc, hwc⟩ := List.mem_flatMap.mp hw
        exact ⟨c, hc, (c.named w hwc).symm.trans hname⟩
      rw [hnone]
      exact Nat.zero_le 1

/-! ## What is written of an invocation -/

/-- The columns of a search; the page always stands. -/
def SearchArguments.columns (a : SearchArguments) : List Column :=
  [.one "sort" a.sort, .many "tag" a.tags, .one "folder" a.folder,
    .one "limit" (a.limit.map fun n => toString n.toNat),
    .one "page" (some (toString a.page.toNat)), .flag "json" a.json]

/-- The columns of an addition; the views always stand. -/
def AddArguments.columns (a : AddArguments) : List Column :=
  [.one "uid" (some a.uid), .one "title" (some a.title), .one "folder" a.folder,
    .many "tag" a.tags, .one "views" (some (toString a.views.toInt))]

def Subcommand.name : Subcommand → String
  | .sortOptions => "sort-options"
  | .search => "search"
  | .add => "add"
  | .completions => "completions"
  | .help => "help"

namespace Command

def subcommand : Command → Subcommand
  | .sortOptions _ => .sortOptions
  | .search _ => .search
  | .add _ => .add
  | .completions _ => .completions

/-- The columns of a command; a shell is no option and has none. -/
def columns : Command → List Column
  | .sortOptions json => [.flag "json" json]
  | .search a => a.columns
  | .add a => a.columns
  | .completions _ => []

/-- The argument without a name. -/
def query? : Command → Option String
  | .search a => some a.query
  | _ => none

/-- What stands last: the query after two dashes. -/
def trailing (c : Command) : List String := c.query?.elim [] (["--", ·])

/-- A command that completions are not asked for with. -/
def Plain (c : Command) : Prop := ∀ shell, c ≠ .completions shell

end Command

namespace Invocation

/-- The two places. -/
def places (i : Invocation) : List Column := [.one "config" i.config, .one "db" i.db]

def columns (i : Invocation) : List Column := i.places ++ i.command.columns

/-- A place that is given is not empty, and the command is one with options. -/
structure Proper (i : Invocation) : Prop where
  config : i.config ≠ some ""
  db : i.db ≠ some ""
  plain : i.command.Plain

end Invocation

/--
The ways to write an invocation. Every option that is present stands in one argument,
in any order. Only places stand before the command, the tags keep their order, and
the query comes last.
-/
inductive Writes (i : Invocation) : List String → Prop where
  | intro (before after : List Written) :
      (before ++ after).Perm (row i.columns) →
      (∀ w ∈ before, IsPlace w.name) →
      valuesIn after "tag" = valuesIn (row i.columns) "tag" →
      Writes i (before.map Written.text
        ++ i.command.subcommand.name :: (after.map Written.text ++ i.command.trailing))

/-! ## Numbers -/

theorem check_natural (n : UInt64) : ValueKind.natural.check (toString n.toNat) = .ok () := by
  rw [ValueKind.check, Text.readUInt64_toString]

theorem check_integer (n : Int64) : ValueKind.integer.check (toString n.toInt) = .ok () := by
  rw [ValueKind.check, Text.readInt64_toString]

theorem natural?_toString (n : UInt64) : natural? (toString n.toNat) = some n := by
  rw [natural?, Text.readUInt64_toString]
  exact congrArg some UInt64.ofNat_toNat

theorem integer?_toString (n : Int64) : integer? (toString n.toInt) = some n := by
  rw [integer?, Text.readInt64_toString]
  exact congrArg some (Int64.ofInt_toInt n)

/-! ## The columns fit the command -/

theorem grammar_plain (sub : Subcommand) : sub.grammar.Plain := by
  cases sub <;> (unfold Grammar.Plain; decide)

theorem topGrammar_plain : topGrammar.Plain := by
  unfold Grammar.Plain
  decide

/-- The names of the columns of a command, apart from its places. -/
theorem nodup_names (i : Invocation) : (i.columns.map Column.name).Nodup := by
  rw [Invocation.columns, Invocation.places]
  cases i.command with
  | sortOptions json => exact (by decide : ["config", "db", "json"].Nodup)
  | search a =>
      exact (by decide :
        ["config", "db", "sort", "tag", "folder", "limit", "page", "json"].Nodup)
  | add a => exact (by decide : ["config", "db", "uid", "title", "folder", "tag", "views"].Nodup)
  | completions shell => exact (by decide : ["config", "db"].Nodup)

theorem Command.not_isPlace (c : Command) : ∀ col ∈ c.columns, ¬ IsPlace col.name := by
  have hnames : ∀ n ∈ c.columns.map Column.name, ¬ IsPlace n := by
    cases c with
    | sortOptions json => exact (by decide : ∀ n ∈ ["json"], ¬ IsPlace n)
    | search a =>
        exact (by decide : ∀ n ∈ ["sort", "tag", "folder", "limit", "page", "json"], ¬ IsPlace n)
    | add a => exact (by decide : ∀ n ∈ ["uid", "title", "folder", "tag", "views"], ¬ IsPlace n)
    | completions shell => exact fun n hn => absurd hn List.not_mem_nil
  exact fun col hcol => hnames col.name (List.mem_map_of_mem hcol)

theorem SearchArguments.fits_columns (a : SearchArguments) :
    ∀ col ∈ a.columns, col.Fits Subcommand.search.grammar := by
  have hnatural : ∀ {v : Option UInt64} {x : String},
      (v.map fun n => toString n.toNat) = some x → ValueKind.natural.check x = .ok () := by
    intro v x hx
    obtain ⟨n, _, rfl⟩ := Option.map_eq_some_iff.mp hx
    exact check_natural n
  rw [SearchArguments.columns]
  simp only [List.forall_mem_cons, List.not_mem_nil, false_imp_iff, implies_true, and_true]
  exact ⟨Column.fits_one rfl fun _ _ => rfl, Column.fits_many rfl fun _ _ => rfl,
    Column.fits_one rfl fun _ _ => rfl, Column.fits_one rfl fun _ hx => hnatural hx,
    Column.fits_one rfl fun _ hx => hnatural (v := some a.page) hx, Column.fits_flag rfl a.json⟩

theorem AddArguments.fits_columns (a : AddArguments) :
    ∀ col ∈ a.columns, col.Fits Subcommand.add.grammar := by
  have hviews : ∀ x, some (toString a.views.toInt) = some x →
      ValueKind.integer.check x = .ok () := by
    intro x hx
    rw [← Option.some.inj hx]
    exact check_integer a.views
  rw [AddArguments.columns]
  simp only [List.forall_mem_cons, List.not_mem_nil, false_imp_iff, implies_true, and_true]
  exact ⟨Column.fits_one rfl fun _ _ => rfl, Column.fits_one rfl fun _ _ => rfl,
    Column.fits_one rfl fun _ _ => rfl, Column.fits_many rfl fun _ _ => rfl,
    Column.fits_one rfl hviews⟩

theorem Invocation.Proper.fits_columns {i : Invocation} (h : i.Proper) :
    ∀ col ∈ i.columns, col.Fits i.command.subcommand.grammar := by
  have hpath : ∀ {v : Option String}, v ≠ some "" → ∀ x, v = some x →
      ValueKind.path.check x = .ok () := by
    intro v hv x hx
    have hne : x ≠ "" := fun hempty => hv (hx.trans (congrArg some hempty))
    rw [ValueKind.check, if_neg hne]
  have hplaces : i.command.subcommand.grammar.find? "config" = some ⟨"config", .one .path⟩
      ∧ i.command.subcommand.grammar.find? "db" = some ⟨"db", .one .path⟩ := by
    cases i.command <;> exact ⟨rfl, rfl⟩
  intro col hcol
  rcases List.mem_append.mp hcol with hcol | hcol
  · rw [Invocation.places, List.mem_cons, List.mem_singleton] at hcol
    rcases hcol with rfl | rfl
    · exact Column.fits_one hplaces.1 (hpath h.config)
    · exact Column.fits_one hplaces.2 (hpath h.db)
  · cases hc : i.command with
    | sortOptions json =>
        rw [hc] at hcol
        rw [List.mem_singleton.mp hcol]
        exact Column.fits_flag rfl json
    | search a =>
        rw [hc] at hcol
        exact a.fits_columns col hcol
    | add a =>
        rw [hc] at hcol
        exact a.fits_columns col hcol
    | completions shell => exact absurd hc (h.plain shell)

/-! ## Both sides of the command -/

theorem ofName?_name (sub : Subcommand) : Subcommand.ofName? sub.name = some sub := by
  cases sub <;> rfl

/-- No option is taken for a command. -/
theorem ofName?_text (w : Written) : Subcommand.ofName? w.text = none := by
  have hdash : w.text.toList.head? = some '-' := by
    cases w with
    | flag n => rw [Written.text, String.toList_append]; rfl
    | valued n v =>
        rw [Written.text, String.toList_append, String.toList_append, String.toList_append,
          List.append_assoc, List.append_assoc]
        rfl
  have hnames : ∀ p ∈ Subcommand.names, p.1.toList.head? ≠ some '-' := by decide
  rw [Subcommand.ofName?, Option.map_eq_none_iff, List.find?_eq_none]
  intro p hp heq
  rw [← eq_of_beq heq] at hdash
  exact hnames p hp hdash

theorem parseFrom_written {done ws : List Written} (h : FitsRow topGrammar (done ++ ws))
    (rest : List String) :
    parseFrom (Scan.after done) (ws.map Written.text ++ rest)
      = parseFrom (Scan.after (done ++ ws)) rest := by
  refine FitsRow.induction (g := topGrammar) (P := fun done ws =>
    parseFrom (Scan.after done) (ws.map Written.text ++ rest)
      = parseFrom (Scan.after (done ++ ws)) rest) ?_ ?_ ws done h
  · intro done
    rw [List.append_nil]; rfl
  · intro done w ws hfit hfree ih
    rw [List.map_cons, List.cons_append, parseFrom, ofName?_text]
    dsimp only
    rw [Scan.step_written topGrammar_plain hfit hfree]
    dsimp only
    rw [ih, List.append_assoc]; rfl

theorem parseFrom_name (ws : List Written) (sub : Subcommand) (args : List String) :
    parseFrom (Scan.after ws) (sub.name :: args)
      = Invocation.ofArguments (Scan.after ws) sub args := by
  rw [parseFrom, ofName?_name]
  rfl

/-- Before the command a place is taken as it is after the command. -/
theorem Written.Fits.top {g : Grammar} (hg : g.TakesPaths) {w : Written} (h : w.Fits g)
    (hw : IsPlace w.name) : w.Fits topGrammar := by
  cases h with
  | flag hfind =>
      have htakes := hg _ (List.mem_of_find?_eq_some hfind) hw
      exact absurd htakes (by simp)
  | @once n v kind hfind hcheck =>
      have htakes := hg _ (List.mem_of_find?_eq_some hfind) hw
      rw [Takes.one.inj htakes] at hcheck
      rcases hw with hw | hw
      · change n = "config" at hw
        rw [hw]
        exact .once rfl hcheck
      · change n = "db" at hw
        rw [hw]
        exact .once rfl hcheck
  | repeated hfind _ =>
      have htakes := hg _ (List.mem_of_find?_eq_some hfind) hw
      exact absurd htakes (by simp)

theorem FitsRow.top {sub : Subcommand} {ws : List Written} (h : FitsRow sub.grammar ws)
    (hws : ∀ w ∈ ws, IsPlace w.name) : FitsRow topGrammar ws where
  fits := fun w hw => (h.fits w hw).top (grammar_takesPaths sub) (hws w hw)
  once := by
    intro n _
    by_cases hn : IsPlace n
    · refine h.once n ?_
      rcases hn with rfl | rfl
      · cases sub <;> rfl
      · cases sub <;> rfl
    · have hnone : valuesIn ws n = [] :=
        valuesIn_eq_nil.mpr fun w hw hname => hn (hname ▸ hws w hw)
      rw [hnone]
      exact Nat.zero_le 1

/-! ## The command comes back -/

theorem Scan.all_trailing (c : Command) (ws : List Written) :
    ∃ s, Scan.all c.subcommand.grammar (Scan.after ws) c.trailing = .ok s
      ∧ s.given = ws.map Written.taken ∧ (∀ q, c.query? = some q → s.positional = some q) := by
  have hnone : ∀ (s : Scan) (q : String), none = some q → s.positional = some q :=
    fun _ _ h => absurd h (by simp)
  cases c with
  | search a =>
      exact ⟨{ Scan.after ws with positional := some a.query, escaped := true }, rfl, rfl,
        fun _ hq => hq⟩
  | sortOptions json => exact ⟨Scan.after ws, rfl, rfl, hnone _⟩
  | add a => exact ⟨Scan.after ws, rfl, rfl, hnone _⟩
  | completions shell => exact ⟨Scan.after ws, rfl, rfl, hnone _⟩

section Columns

variable {s : Scan} {n : String}

theorem Scan.value?_of_column {v : Option String} (h : s.values n = (Column.one n v).values) :
    s.value? n = v := by
  rw [Scan.value?_eq_head?, h, Column.head?_values_one]

theorem Scan.values_of_column {vs : List String} (h : s.values n = (Column.many n vs).values) :
    s.values n = vs := by
  rw [h, Column.values_many]

theorem Scan.has_of_column {b : Bool} (h : s.values n = (Column.flag n b).values) :
    s.has n = b := by
  rw [Scan.has_eq, h, Column.isEmpty_values_flag, Bool.not_not]

end Columns

theorem SearchArguments.ofScan_of_columns {a : SearchArguments} {s : Scan}
    (h : ∀ col ∈ a.columns, s.values col.name = col.values) (hq : s.positional = some a.query) :
    SearchArguments.ofScan s = a := by
  rw [SearchArguments.columns] at h
  simp only [List.forall_mem_cons, List.not_mem_nil, false_imp_iff, implies_true, and_true,
    Column.name_one, Column.name_many, Column.name_flag] at h
  obtain ⟨hsort, htags, hfolder, hlimit, hpage, hjson⟩ := h
  have hread : (a.limit.map fun n => toString n.toNat).bind natural? = a.limit := by
    cases a.limit with
    | none => rfl
    | some n => exact natural?_toString n
  rw [SearchArguments.ofScan, hq, Scan.value?_of_column hsort, Scan.values_of_column htags,
    Scan.value?_of_column hfolder, Scan.value?_of_column hlimit, Scan.value?_of_column hpage,
    Scan.has_of_column hjson, hread, Option.bind_some, natural?_toString]
  rfl

theorem AddArguments.ofScan_of_columns {a : AddArguments} {s : Scan}
    (h : ∀ col ∈ a.columns, s.values col.name = col.values) :
    AddArguments.ofScan s = .ok a := by
  rw [AddArguments.columns] at h
  simp only [List.forall_mem_cons, List.not_mem_nil, false_imp_iff, implies_true, and_true,
    Column.name_one, Column.name_many] at h
  obtain ⟨huid, htitle, hfolder, htags, hviews⟩ := h
  rw [AddArguments.ofScan, Scan.value?_of_column huid, Scan.value?_of_column htitle]
  dsimp only
  rw [Scan.value?_of_column hfolder, Scan.values_of_column htags, Scan.value?_of_column hviews,
    Option.bind_some, integer?_toString]
  rfl

theorem Command.ofScan_of_columns {c : Command} (hplain : c.Plain) {s : Scan}
    (h : ∀ col ∈ c.columns, s.values col.name = col.values)
    (hq : ∀ q, c.query? = some q → s.positional = some q) :
    Command.ofScan c.subcommand s = .ok c := by
  cases c with
  | sortOptions json =>
      have hjson := Scan.has_of_column (h _ (List.mem_singleton_self _))
      exact congrArg (fun b => Except.ok (Command.sortOptions b)) hjson
  | search a =>
      have ha := SearchArguments.ofScan_of_columns h (hq a.query rfl)
      exact congrArg (fun a => Except.ok (Command.search a)) ha
  | add a =>
      rw [Command.subcommand, Command.ofScan, AddArguments.ofScan_of_columns h]
  | completions shell => exact absurd rfl (hplain shell)

/-- Only the tag may be repeated. -/
theorem repeats_eq_false (sub : Subcommand) {n : String} (h : n ≠ "tag") :
    sub.grammar.repeats n = false := by
  have hkinds : ∀ spec ∈ sub.grammar.options, spec.name ≠ "tag" →
      spec.takes ∈ [.nothing, .one .text, .one .path, .one .natural, .one .integer] := by
    cases sub <;> decide
  rw [Grammar.repeats]
  split
  · rename_i m kind hfind
    have hname : m = n := by simpa using List.find?_some hfind
    have hkind := hkinds _ (List.mem_of_find?_eq_some hfind) (hname ▸ h)
    exact absurd hkind (by simp)
  · rfl

/-- What becomes of the two scans of an accepted command line. -/
theorem ofArguments_of_ok {top top' : Scan} {sub : Subcommand} {args : List String} {s : Scan}
    {c : Command} (hsub : sub ≠ .help) (hs : Scan.all sub.grammar {} args = .ok s)
    (hc : Command.ofScan sub s = .ok c) (htop : top.settle = .ok top') :
    Invocation.ofArguments top sub args
      = .ok ⟨(s.value? "config").or (top'.value? "config"),
          (s.value? "db").or (top'.value? "db"), c⟩ := by
  unfold Invocation.ofArguments
  split
  · exact absurd rfl hsub
  · rw [hs]
    dsimp only
    rw [hc]
    dsimp only
    rw [htop]

/-- **What is written comes back.** -/
theorem parse_of_writes {i : Invocation} (hi : i.Proper) {args : List String}
    (h : Writes i args) : parse args = .ok i := by
  obtain ⟨before, after, hperm, hbefore, htags⟩ := h
  have hrow : FitsRow i.command.subcommand.grammar (row i.columns) :=
    fitsRow_row (nodup_names i) hi.fits_columns
  obtain ⟨hfirst, hsecond⟩ := (hrow.of_perm hperm).of_append
  -- an option that may stand once has its values in either order of the two rows
  have hsingle : ∀ {n}, n ≠ "tag" →
      valuesIn after n ++ valuesIn before n = valuesIn (row i.columns) n := by
    intro n hn
    rw [← valuesIn_append]
    exact valuesIn_eq_of_perm (List.perm_append_comm.trans hperm)
      (hrow.once n (repeats_eq_false _ hn))
  have hcolumn : ∀ col ∈ i.command.columns, valuesIn after col.name = col.values := by
    intro col hcol
    have hvalues := valuesIn_row (nodup_names i) (List.mem_append_right i.places hcol)
    have hnone : valuesIn before col.name = [] := valuesIn_eq_nil.mpr fun w hw hname =>
      i.command.not_isPlace col hcol (hname ▸ hbefore w hw)
    by_cases htag : col.name = "tag"
    · rw [← hvalues, htag]
      exact htags
    · have hboth := hsingle htag
      rw [hnone, List.append_nil] at hboth
      rw [hboth]
      exact hvalues
  obtain ⟨s, hs, hgiven, hquery⟩ := Scan.all_trailing i.command after
  have hcommand : Command.ofScan i.command.subcommand s = .ok i.command := by
    refine Command.ofScan_of_columns hi.plain (fun col hcol => ?_) hquery
    rw [Scan.values_eq_valuesIn hgiven]
    exact hcolumn col hcol
  have hplace : ∀ {n v}, n ≠ "tag" → Column.one n v ∈ i.places →
      (s.value? n).or ((Scan.after before).value? n) = v := by
    intro n v hn hmem
    have hvalues := valuesIn_row (nodup_names i) (List.mem_append_left i.command.columns hmem)
    rw [Column.name_one] at hvalues
    rw [Scan.value?_eq_head?, Scan.value?_eq_head?, Scan.values_eq_valuesIn hgiven,
      Scan.values_eq_valuesIn rfl, ← List.head?_append, hsingle hn]
    exact (congrArg List.head? hvalues).trans (Column.head?_values_one n v)
  have hargs : Scan.all i.command.subcommand.grammar {}
      (after.map Written.text ++ i.command.trailing) = .ok s :=
    (Scan.all_written (grammar_plain _) (show FitsRow _ ([] ++ after) from hsecond) _).trans hs
  have hhelp : i.command.subcommand ≠ .help := by cases i.command <;> simp [Command.subcommand]
  have hparse := parseFrom_written (show FitsRow topGrammar ([] ++ before) from hfirst.top hbefore)
    (i.command.subcommand.name :: (after.map Written.text ++ i.command.trailing))
  have hsettle : (Scan.after before).settle = .ok (Scan.after before) := rfl
  rw [List.nil_append, parseFrom_name, ofArguments_of_ok hhelp hargs hcommand hsettle,
    hplace (by decide) List.mem_cons_self,
    hplace (by decide) (List.mem_cons_of_mem _ List.mem_cons_self)] at hparse
  exact hparse

/-- Every invocation can be written: everything after the command, in the order of the columns. -/
theorem writes_row (i : Invocation) :
    Writes i (i.command.subcommand.name
      :: ((row i.columns).map Written.text ++ i.command.trailing)) :=
  .intro [] (row i.columns) (List.Perm.refl _) (fun _ hw => absurd hw List.not_mem_nil) rfl

/--
**A command line is read back from what was written of it.**

Whatever the strings, the tags and the numbers of an invocation with options are, and in
whatever order it is written, it is parsed to itself. Conversely an accepted invocation
is one of those: it names no empty path, and it can be written and comes back.
-/
theorem parse_round_trip :
    (∀ (i : Invocation) (args : List String), i.Proper → Writes i args → parse args = .ok i)
      ∧ ∀ (args : List String) (i : Invocation), parse args = .ok i → i.command.Plain →
          i.Proper ∧ (∃ args', Writes i args')
            ∧ ∀ args', Writes i args' → parse args' = .ok i := by
  have hback : ∀ (i : Invocation) (args : List String), i.Proper → Writes i args →
      parse args = .ok i := fun i args hi h => parse_of_writes hi h
  refine ⟨hback, ?_⟩
  intro args i hparse hplain
  obtain ⟨hconfig, hdb⟩ := places_ne_empty hparse
  have hproper : i.Proper := ⟨hconfig, hdb, hplain⟩
  exact ⟨hproper, ⟨_, writes_row i⟩, fun args' h => hback i args' hproper h⟩

/-- A search whose values look like options, commands and marks. -/
def oddSearch : Invocation where
  config := some "--db=x"
  db := some "="
  command := .search
    { query := "--json", sort := some "", tags := ["search", "--", "b=c", "search"],
      folder := some "add", limit := some 18446744073709551615, page := 0, json := true }

/-- The options before the command. -/
def oddBefore : List Written := [.valued "db" "="]

/-- The options after the command. -/
def oddAfter : List Written :=
  [.valued "tag" "search", .flag "json", .valued "page" "0", .valued "tag" "--",
    .valued "config" "--db=x", .valued "limit" "18446744073709551615", .valued "tag" "b=c",
    .valued "folder" "add", .valued "tag" "search", .valued "sort" ""]

/-- An accepted search that is not written this way: values apart, signs and zeros. -/
def looseSearch : Invocation where
  command := .search { query := "cpu load", page := 2, tags := ["a"] }

/-- Odd values come back, and so does what was accepted in another form. -/
theorem parse_round_trip_of_odd :
    parse ["--db==", "search", "--tag=search", "--json", "--page=0", "--tag=--",
        "--config=--db=x", "--limit=18446744073709551615", "--tag=b=c", "--folder=add",
        "--tag=search", "--sort=", "--", "--json"] = .ok oddSearch
      ∧ parse ["search", "cpu load", "--page", "+02", "--tag", "a"] = .ok looseSearch
      ∧ looseSearch.Proper
      ∧ parse ["search", "--tag=a", "--page=2", "--", "cpu load"] = .ok looseSearch := by
  have hproper : oddSearch.Proper := ⟨by decide, by decide, fun _ h => Command.noConfusion h⟩
  have hplain : looseSearch.command.Plain := fun _ h => Command.noConfusion h
  have hwrites : Writes oddSearch (oddBefore.map Written.text
      ++ "search" :: (oddAfter.map Written.text ++ ["--", "--json"])) :=
    .intro oddBefore oddAfter (by decide) (by decide) (by decide)
  have hloose : parse ["search", "cpu load", "--page", "+02", "--tag", "a"] = .ok looseSearch := by
    decide
  obtain ⟨hlooseProper, _, hback⟩ := parse_round_trip.2 _ looseSearch hloose hplain
  exact ⟨parse_round_trip.1 oddSearch _ hproper hwrites, hloose, hlooseProper,
    hback _ (writes_row looseSearch)⟩

end DashIndex.CommandLine
