import DashIndex.Toml.Document

/-!
# What the root table of a document holds

An array comes into a document in two ways, and they can be told apart for good. A
term that is an array is a plain one, whatever its items are. An array of tables is
made by a header, starts with the table of that header, and only ever grows at its
end, or in the table that is its last one. So it is never empty, and its first item
is a table: this is what every line keeps up, and `parse_sound` says it of the root
table of every document.
-/

namespace DashIndex.Toml

/-- The items start with a table. -/
def StartsWithTable (items : List Value) : Prop :=
  ∃ kind sub rest, items = .table kind sub :: rest

/-- If the value is an array of tables, it starts with one. -/
def Value.Sound (v : Value) : Prop :=
  ∀ items, v = .array true items → StartsWithTable items

/-- Every array of tables among the values of a table starts with a table. -/
def Table.Sound (t : Table) : Prop :=
  ∀ key v, t.get? key = some v → v.Sound

theorem Value.Sound.table (kind : TableKind) (fields : Table) : (Value.table kind fields).Sound :=
  fun _ h => nomatch h

theorem Value.Sound.array (items : List Value) : (Value.array false items).Sound :=
  fun _ h => nomatch h

theorem orMalformed_eq_ok {α : Type} {o : Option α} {a : α} :
    orMalformed o = .ok a ↔ o = some a := by
  cases o with
  | none => simp [orMalformed]
  | some b => simp [orMalformed]

/-! ## Values of terms -/

theorem boundedInteger_sound {n : Int} {v : Value} (h : boundedInteger n = some v) : v.Sound := by
  unfold boundedInteger at h
  split at h
  · obtain rfl := Option.some.inj h
    exact fun _ hv => nomatch hv
  · exact absurd h (by simp)

theorem radixInteger_sound {radix : Nat} {cs : List Char} {v : Value}
    (h : radixInteger radix cs = some v) : v.Sound := by
  obtain ⟨_, _, hv⟩ := Option.bind_eq_some_iff.mp h
  exact boundedInteger_sound hv

theorem decimalInteger_sound {cs : List Char} {v : Value} (h : decimalInteger cs = some v) :
    v.Sound := by
  obtain ⟨_, _, hv⟩ := Option.bind_eq_some_iff.mp h
  exact boundedInteger_sound hv

theorem finiteFloat_sound {spelled whole : List Char} {fraction exponent : Option (List Char)}
    {v : Value} (h : finiteFloat spelled whole fraction exponent = some v) : v.Sound := by
  unfold finiteFloat at h
  split at h
  · exact absurd h (by simp)
  · exact absurd h (by simp)
  · exact absurd h (by simp)
  · exact absurd h (by simp)
  · -- whichever power of ten it is, what is left to check is the size
    dsimp only at h
    generalize isTooLarge _ _ = tooLarge at h
    cases tooLarge with
    | false =>
        obtain rfl := Option.some.inj h
        exact fun _ hv => nomatch hv
    | true => exact absurd h (by simp)

theorem readFloat_sound {cs : List Char} {v : Value} (h : readFloat cs = some v) : v.Sound := by
  unfold readFloat at h
  dsimp only at h
  split at h
  · obtain rfl := Option.some.inj h
    exact fun _ hv => nomatch hv
  · exact finiteFloat_sound h

/-- No word spells an array. -/
theorem readWord_sound {cs : List Char} {v : Value} (h : readWord cs = some v) : v.Sound := by
  unfold readWord at h
  split at h
  · obtain rfl := Option.some.inj h
    exact fun _ hv => nomatch hv
  · obtain rfl := Option.some.inj h
    exact fun _ hv => nomatch hv
  · exact radixInteger_sound h
  · exact radixInteger_sound h
  · exact radixInteger_sound h
  · split at h
    · split at h
      · obtain rfl := Option.some.inj h
        exact fun _ hv => nomatch hv
      · exact absurd h (by simp)
    · split at h
      · rename_i v' hinteger
        obtain rfl := Option.some.inj h
        exact decimalInteger_sound hinteger
      · exact readFloat_sound h

theorem Term.value_sound {term : Term} {v : Value} (h : term.value = .ok v) : v.Sound := by
  cases term with
  | text s =>
      obtain rfl := Except.ok.inj h
      exact fun _ hv => nomatch hv
  | word spelled => exact readWord_sound (orMalformed_eq_ok.mp h)
  | array items =>
      rw [value] at h
      cases hvs : valuesOf items with
      | error e => rw [hvs] at h; exact absurd h (by simp [Except.map])
      | ok vs =>
          rw [hvs] at h
          obtain rfl := Except.ok.inj h
          exact .array vs
  | table fields =>
      rw [value] at h
      cases ht : withFields [] fields with
      | error e => rw [ht] at h; exact absurd h (by simp [Except.map])
      | ok t =>
          rw [ht] at h
          obtain rfl := Except.ok.inj h
          exact .table .inline t

/-! ## Changes of a table -/

namespace Table

theorem get?_set (t : Table) (key : String) (v : Value) (k : String) :
    (t.set key v).get? k = if key = k then some v else t.get? k := by
  induction t with
  | nil => rfl
  | cons f t ih =>
      obtain ⟨k', v'⟩ := f
      rw [set]
      split
      · rename_i hk
        subst hk
        rw [get?, get?]
        split
        · rfl
        · rfl
      · rename_i hk
        rw [get?, get?, ih]
        split
        · rename_i hk'
          rw [if_neg fun he => hk (hk'.trans he.symm)]
        · rfl

variable {t t' : Table} {key : String} {v : Value}

theorem Sound.set (h : t.Sound) (key : String) (hv : v.Sound) : (t.set key v).Sound := by
  intro k w hw
  rw [get?_set] at hw
  split at hw
  · rw [← Option.some.inj hw]
    exact hv
  · exact h k w hw

theorem Sound.setNew (h : t.Sound) (hv : v.Sound) (hset : t.setNew key v = some t') :
    t'.Sound := by
  unfold Table.setNew at hset
  split at hset
  · rw [← Option.some.inj hset]
    exact h.set key hv
  · exact absurd hset (by simp)

/-- An array of tables still starts with a table when its last table is replaced. -/
theorem startsWithTable_replaceLast {items before : List Value} {kind : TableKind} {last sub : Table}
    (h : StartsWithTable items) (hitems : items.reverse = .table kind last :: before) :
    StartsWithTable (.table kind sub :: before).reverse := by
  have hsplit : items = before.reverse ++ [.table kind last] := by
    rw [← List.reverse_reverse items, hitems, List.reverse_cons]
  rw [List.reverse_cons]
  cases hbefore : before.reverse with
  | nil => exact ⟨kind, sub, [], rfl⟩
  | cons first rest =>
      obtain ⟨kind', sub', rest', heq⟩ := h
      rw [hsplit, hbefore] at heq
      obtain ⟨rfl, _⟩ := List.cons.inj heq
      exact ⟨kind', sub', _, rfl⟩

/--
A change at the end of a path keeps a table sound if it keeps sound the tables that
it is made to. What the path leads through stays a table, or an array of tables.
-/
theorem Sound.update (h : t.Sound) {byDottedKey : Bool}
    {change : TableKind → Table → Option Table} {path : List String} {kind : TableKind}
    (hchange : ∀ kind t t', t.Sound → change kind t = some t' → t'.Sound)
    (hupdate : Table.update byDottedKey change path kind t = some t') : t'.Sound := by
  cases path with
  | nil => exact hchange kind t t' h hupdate
  | cons key path =>
      rw [Table.update] at hupdate
      split at hupdate
      · obtain ⟨sub, _, rfl⟩ := Option.map_eq_some_iff.mp hupdate
        exact h.set key (.table _ _)
      · split at hupdate
        · exact absurd hupdate (by simp)
        · obtain ⟨sub, _, rfl⟩ := Option.map_eq_some_iff.mp hupdate
          exact h.set key (.table _ _)
      · rename_i items hget
        split at hupdate
        · rename_i kind last before hitems
          obtain ⟨sub, _, rfl⟩ := Option.map_eq_some_iff.mp hupdate
          refine h.set key fun items' heq => ?_
          rw [← (Value.array.inj heq).2]
          exact startsWithTable_replaceLast (h key _ hget items rfl) hitems
        · exact absurd hupdate (by simp)
      · exact absurd hupdate (by simp)

theorem Sound.addField (h : t.Sound) {path : List String} {kind : TableKind} (hv : v.Sound)
    (hadd : Table.addField path v kind t = some t') : t'.Sound := by
  unfold Table.addField at hadd
  split at hadd
  · exact absurd hadd (by simp)
  · refine h.update (fun _ _ _ hs hplace => ?_) hadd
    split at hplace
    · exact hs.setNew hv hplace
    · exact absurd hplace (by simp)

theorem Sound.defineField (h : t.Sound) {header path : List String} (hv : v.Sound)
    (hdefine : t.defineField header path v = some t') : t'.Sound :=
  h.update (fun _ _ _ hs hadd => hs.addField hv hadd) hdefine

theorem Sound.defineTable (h : t.Sound) {path : List String}
    (hdefine : defineTable path t = some t') : t'.Sound := by
  unfold Table.defineTable at hdefine
  split at hdefine
  · exact absurd hdefine (by simp)
  · refine h.update (fun _ s _ hs hplace => ?_) hdefine
    split at hplace
    · rw [← Option.some.inj hplace]
      exact hs.set _ (.table _ _)
    · rw [← Option.some.inj hplace]
      exact hs.set _ (.table _ _)
    · exact absurd hplace (by simp)

theorem Sound.defineItem (h : t.Sound) {path : List String}
    (hdefine : defineItem path t = some t') : t'.Sound := by
  unfold Table.defineItem at hdefine
  split at hdefine
  · exact absurd hdefine (by simp)
  · refine h.update (fun _ s _ hs hplace => ?_) hdefine
    split at hplace
    · rw [← Option.some.inj hplace]
      refine hs.set _ fun items heq => ?_
      exact ⟨_, _, [], (Value.array.inj heq).2.symm⟩
    · rename_i items hget
      rw [← Option.some.inj hplace]
      refine hs.set _ fun items' heq => ?_
      -- the array grows at its end, so it starts as it did
      obtain ⟨kind, sub, rest, hitems⟩ := hs _ _ hget items rfl
      exact ⟨kind, sub, _, by rw [← (Value.array.inj heq).2, hitems]; rfl⟩
    · exact absurd hplace (by simp)

end Table

/-! ## Lines and documents -/

theorem bind_eq_ok {α β : Type} {x : Except Fault α} {f : α → Except Fault β} {b : β} :
    (x >>= f) = .ok b ↔ ∃ a, x = .ok a ∧ f a = .ok b := by
  cases x with
  | error e => simp [bind, Except.bind]
  | ok a => simp [bind, Except.bind]

/-- **Every line keeps the root table sound.** -/
theorem Draft.add_sound {d d' : Draft} {line : Line} (h : d.root.Sound)
    (hadd : d.add line = .ok d') : d'.root.Sound := by
  cases line with
  | nothing =>
      rw [← Except.ok.inj hadd]
      exact h
  | field path term =>
      obtain ⟨_, _, hadd⟩ := bind_eq_ok.mp hadd
      obtain ⟨v, hv, hadd⟩ := bind_eq_ok.mp hadd
      obtain ⟨root, hroot, hadd⟩ := bind_eq_ok.mp hadd
      rw [← Except.ok.inj hadd]
      exact h.defineField (Term.value_sound hv) (orMalformed_eq_ok.mp hroot)
  | table path =>
      obtain ⟨_, _, hadd⟩ := bind_eq_ok.mp hadd
      obtain ⟨root, hroot, hadd⟩ := bind_eq_ok.mp hadd
      rw [← Except.ok.inj hadd]
      exact h.defineTable (orMalformed_eq_ok.mp hroot)
  | item path =>
      obtain ⟨_, _, hadd⟩ := bind_eq_ok.mp hadd
      obtain ⟨root, hroot, hadd⟩ := bind_eq_ok.mp hadd
      rw [← Except.ok.inj hadd]
      exact h.defineItem (orMalformed_eq_ok.mp hroot)

theorem Draft.addAll_sound {lines : List Line} {d d' : Draft} (h : d.root.Sound)
    (hadd : lines.foldlM Draft.add d = .ok d') : d'.root.Sound := by
  induction lines generalizing d with
  | nil =>
      rw [← Except.ok.inj hadd]
      exact h
  | cons line lines ih =>
      rw [List.foldlM_cons] at hadd
      obtain ⟨d₁, hline, hlines⟩ := bind_eq_ok.mp hadd
      exact ih (Draft.add_sound h hline) hlines

/-- **The root table of every document is sound.** -/
theorem parse_sound {document : String} {root : Table} (h : parse document = .ok root) :
    root.Sound := by
  obtain ⟨lines, _, h⟩ := bind_eq_ok.mp h
  obtain ⟨d, hd, h⟩ := bind_eq_ok.mp h
  rw [← Except.ok.inj h]
  have hempty : ({} : Draft).root.Sound := fun _ _ hget => nomatch hget
  exact Draft.addAll_sound hempty hd

/-- A document without a byte order mark has the root table that its lines make. -/
theorem parse_of_lines {document : String} {lines : List Line} {d : Draft}
    (hlines : readLines (document.toList.length + 1) document.toList = some lines)
    (hmark : dropMark document.toList = document.toList)
    (hreturn : hasLoneReturn document.toList = false) (hadd : lines.foldlM Draft.add {} = .ok d) :
    parse document = .ok d.root := by
  unfold parse lines?
  rw [hmark]
  dsimp only
  rw [hreturn, if_neg (by simp), hlines]
  dsimp only [orMalformed, bind, Except.bind]
  rw [hadd]
  rfl

end DashIndex.Toml
