import DashIndex.Dashboard.Decoding

/-!
# Which values are no dashboard, and what is reported of them

A value can be wrong in many places at once, and one fault is reported. Each place is a
`Field`, with the kind of value that it asks for, and its fault depends on nothing but
what stands there. What decides between several is the order of reading: by
`faultOf_bind` a sequence of readers fails with the first fault among theirs, and the
two forms of a dashboard are two sequences. An object is read by the names of the fields in
their order as texts, and only then asked for those that it lacks; an array is read by
position, and only then measured.

An order of reading that is sorted has a first fault that is least: there is nothing
wrong before it. The main statement speaks of least faults and of no order of reading.
-/

namespace DashIndex

/-! ## The fault of a sequence of readers -/

/-- What a reader reports, if it fails. -/
def faultOf {ε α : Type} : Except ε α → Option ε
  | .error e => some e
  | .ok _ => none

theorem faultOf_eq_some {ε α : Type} {x : Except ε α} {e : ε} :
    faultOf x = some e ↔ x = .error e := by
  cases x with
  | error e' => simp [faultOf]
  | ok a => simp [faultOf]

theorem faultOf_eq_none {ε α : Type} {x : Except ε α} :
    faultOf x = none ↔ ∃ a, x = .ok a := by
  cases x with
  | error e => simp [faultOf]
  | ok a => simp [faultOf]

theorem faultOf_map {ε α β : Type} (f : α → β) (x : Except ε α) :
    faultOf (x.map f) = faultOf x := by
  cases x with
  | error e => rfl
  | ok a => rfl

/-- **Of two readers in sequence, the first one that fails is reported.** -/
theorem faultOf_bind {ε α β : Type} {x : Except ε α} {k : α → Except ε β} {first rest : Option ε}
    (hx : faultOf x = first) (hk : ∀ a, x = .ok a → faultOf (k a) = rest) :
    faultOf (x >>= k) = first.or rest := by
  cases x with
  | error e => exact hx ▸ rfl
  | ok a => exact (hk a rfl).trans (hx ▸ rfl)

theorem findSome?_cons_eq_or {α β : Type} (f : α → Option β) (a : α) (l : List α) :
    (a :: l).findSome? f = (f a).or (l.findSome? f) := by
  rw [List.findSome?_cons]
  cases f a with
  | none => rfl
  | some b => rfl

/-- In a sorted sequence the first find is the least one. -/
theorem findSome?_eq_some_iff_least {α β : Type} {before : α → α → Prop} {l : List α}
    (hsorted : l.Pairwise before) (hasymm : ∀ a b, before a b → ¬ before b a) {f : α → Option β}
    {b : β} :
    l.findSome? f = some b ↔ ∃ a ∈ l, f a = some b ∧ ∀ x ∈ l, before x a → f x = none := by
  rw [List.findSome?_eq_some_iff]
  constructor
  · rintro ⟨l₁, a, l₂, rfl, ha, hnone⟩
    refine ⟨a, List.mem_append_right l₁ List.mem_cons_self, ha, fun x hx hxa => ?_⟩
    rcases List.mem_append.mp hx with hx | hx
    · exact hnone x hx
    · -- what comes at or after the find is not before it
      rcases List.mem_cons.mp hx with rfl | hx
      · exact absurd hxa (hasymm x x hxa)
      · have hax := (List.pairwise_cons.mp (List.pairwise_append.mp hsorted).2.1).1 x hx
        exact absurd hxa (hasymm a x hax)
  · rintro ⟨a, ha, hfa, hleast⟩
    obtain ⟨l₁, l₂, rfl⟩ := List.append_of_mem ha
    refine ⟨l₁, a, l₂, rfl, hfa, fun x hx => ?_⟩
    have hxa := (List.pairwise_append.mp hsorted).2.2 x hx a List.mem_cons_self
    exact hleast x (List.mem_append_left _ hx) hxa

/-! ## Kinds of values -/

/-- What a field asks for. -/
inductive Kind where
  | text
  | textOrNull
  | texts
  | integer
  deriving DecidableEq, Repr

namespace Kind

/-- The values that a field of a kind may hold. -/
def Admits : Kind → Json → Prop
  | .text, v => ∃ s, v = .string s
  | .textOrNull, v => v = .null ∨ ∃ s, v = .string s
  | .texts, v => ∃ items, v = .array items ∧ ∀ i ∈ items, ∃ s, i = .string s
  | .integer, v => ∃ n, v = .integer n ∧ Text.minInt64 ≤ n ∧ n ≤ Text.maxInt64

/-- What is reported of the other values. -/
inductive Fault : Kind → Json → DecodeError → Prop where
  | text {v : Json} (h : ¬ Admits .text v) : Fault .text v (.wrongType v .text)
  | textOrNull {v : Json} (h : ¬ Admits .textOrNull v) : Fault .textOrNull v (.wrongType v .text)
  /-- no array at all -/
  | noArray {v : Json} (h : ∀ items, v ≠ .array items) : Fault .texts v (.wrongType v .sequence)
  /-- an array: its first item that is no text -/
  | item {before after : List Json} {v : Json} (hbefore : ∀ i ∈ before, Admits .text i)
      (h : ¬ Admits .text v) : Fault .texts (.array (before ++ v :: after)) (.wrongType v .text)
  /-- an integer above the signed words, but still a word -/
  | tooLarge {n : Int} (hlarge : Text.maxInt64 < n) (hword : n ≤ Text.maxUInt64) :
      Fault .integer (.integer n) (.outOfRange n)
  /-- no integer, or one that is no word at all -/
  | noInteger {v : Json} (h : ∀ n, v = .integer n → n < Text.minInt64 ∨ Text.maxUInt64 < n) :
      Fault .integer v (.wrongType v .integer)

/-- What the reader of a kind reports. -/
def fault? : Kind → Json → Option DecodeError
  | .text, v => faultOf v.asText
  | .textOrNull, v => faultOf v.asText?
  | .texts, v => faultOf v.asTexts
  | .integer, v => faultOf v.asInt64

/-! ### Texts -/

theorem asText_content {v : Json} : faultOf v.asText = none ↔ Kind.text.Admits v := by
  cases v <;> simp [faultOf, Json.asText, Admits]

/-- A value that is no text is reported as such. -/
theorem asText_fault {v : Json} {e : DecodeError} :
    faultOf v.asText = some e ↔ ¬ Kind.text.Admits v ∧ e = .wrongType v .text := by
  cases v with
  | string s => simp [faultOf, Json.asText, Admits]
  | _ => simp [faultOf, Json.asText, Admits, eq_comm]

theorem asText?_content {v : Json} : faultOf v.asText? = none ↔ Kind.textOrNull.Admits v := by
  cases v with
  | null => simp [faultOf, Json.asText?, Admits]
  | _ => simp [Json.asText?, faultOf_map, asText_content, Admits]

theorem asText?_fault {v : Json} {e : DecodeError} :
    faultOf v.asText? = some e ↔ ¬ Kind.textOrNull.Admits v ∧ e = .wrongType v .text := by
  cases v with
  | null => simp [faultOf, Json.asText?, Admits]
  | _ => simp [Json.asText?, faultOf_map, asText_fault, Admits]

theorem asTextList_fault (items : List Json) :
    faultOf (Json.asTextList items) = items.findSome? fun v => faultOf v.asText := by
  induction items with
  | nil => rfl
  | cons v items ih =>
      rw [findSome?_cons_eq_or, ← ih, Json.asTextList]
      cases v.asText with
      | error e => rfl
      | ok s => exact faultOf_map (s :: ·) (Json.asTextList items)

theorem asTexts_content {v : Json} : faultOf v.asTexts = none ↔ Kind.texts.Admits v := by
  cases v with
  | array items =>
      rw [Json.asTexts, asTextList_fault, List.findSome?_eq_none_iff, Admits]
      constructor
      · exact fun h => ⟨items, rfl, fun i hi => asText_content.mp (h i hi)⟩
      · rintro ⟨_, hitems, h⟩
        obtain rfl := Json.array.inj hitems
        exact fun i hi => asText_content.mpr (h i hi)
  | _ => simp [Admits, faultOf, Json.asTexts]

/-- Of an array that is no list of texts, the first item that is no text is reported. -/
theorem asTexts_fault {v : Json} {e : DecodeError} :
    faultOf v.asTexts = some e ↔ Fault .texts v e := by
  cases v with
  | array items =>
      rw [Json.asTexts, asTextList_fault, List.findSome?_eq_some_iff]
      constructor
      · rintro ⟨before, v, after, rfl, hv, hbefore⟩
        obtain ⟨hbad, rfl⟩ := asText_fault.mp hv
        exact .item (fun i hi => asText_content.mp (hbefore i hi)) hbad
      · intro h
        cases h with
        | noArray h => exact absurd rfl (h items)
        | item hbefore hbad =>
            exact ⟨_, _, _, rfl, asText_fault.mpr ⟨hbad, rfl⟩,
              fun i hi => asText_content.mpr (hbefore i hi)⟩
  | _ =>
      constructor
      · intro h
        obtain rfl := Option.some.inj h
        exact .noArray (by simp)
      · rintro ⟨⟩
        rfl

/-! ### Integers -/

/-- An integer is a signed word, or a word that is too large, or no word at all. -/
theorem asInt64_cases (n : Int) :
    ((Text.minInt64 ≤ n ∧ n ≤ Text.maxInt64) ∧ faultOf (Json.integer n).asInt64 = none)
      ∨ ((Text.maxInt64 < n ∧ n ≤ Text.maxUInt64)
        ∧ faultOf (Json.integer n).asInt64 = some (.outOfRange n))
      ∨ ((n < Text.minInt64 ∨ Text.maxUInt64 < n)
        ∧ faultOf (Json.integer n).asInt64 = some (.wrongType (.integer n) .integer)) := by
  rw [Json.asInt64]
  by_cases hsigned : Text.minInt64 ≤ n ∧ n ≤ Text.maxInt64
  · exact Or.inl ⟨hsigned, by rw [if_pos hsigned]; rfl⟩
  · rw [if_neg hsigned]
    by_cases hlarge : Text.maxInt64 < n ∧ n ≤ Text.maxUInt64
    · exact Or.inr (Or.inl ⟨hlarge, by rw [if_pos hlarge]; rfl⟩)
    · rw [if_neg hlarge]
      exact Or.inr (Or.inr ⟨by omega, rfl⟩)

theorem asInt64_content {v : Json} : faultOf v.asInt64 = none ↔ Kind.integer.Admits v := by
  cases v with
  | integer n =>
      have hadmits : Kind.integer.Admits (.integer n)
          ↔ Text.minInt64 ≤ n ∧ n ≤ Text.maxInt64 := by
        simp [Admits]
      have hwords : Text.minInt64 ≤ Text.maxInt64 ∧ Text.maxInt64 ≤ Text.maxUInt64 := by decide
      rw [hadmits]
      rcases asInt64_cases n with ⟨hn, hread⟩ | ⟨hn, hread⟩ | ⟨hn, hread⟩
      · exact ⟨fun _ => hn, fun _ => hread⟩
      · rw [hread]
        exact ⟨nofun, fun h => by omega⟩
      · rw [hread]
        exact ⟨nofun, fun h => by omega⟩
  | _ => simp [Admits, faultOf, Json.asInt64]

theorem fault_integer_iff {n : Int} {e : DecodeError} :
    Fault .integer (.integer n) e
      ↔ ((Text.maxInt64 < n ∧ n ≤ Text.maxUInt64) ∧ e = .outOfRange n)
        ∨ ((n < Text.minInt64 ∨ Text.maxUInt64 < n) ∧ e = .wrongType (.integer n) .integer) := by
  constructor
  · intro h
    cases h with
    | tooLarge hlarge hword => exact Or.inl ⟨⟨hlarge, hword⟩, rfl⟩
    | noInteger h => exact Or.inr ⟨h n rfl, rfl⟩
  · rintro (⟨⟨hlarge, hword⟩, rfl⟩ | ⟨hn, rfl⟩)
    · exact .tooLarge hlarge hword
    · exact .noInteger fun m hm => Json.integer.inj hm ▸ hn

theorem asInt64_fault {v : Json} {e : DecodeError} :
    faultOf v.asInt64 = some e ↔ Fault .integer v e := by
  cases v with
  | integer n =>
      have hwords : Text.minInt64 ≤ Text.maxInt64 ∧ Text.maxInt64 ≤ Text.maxUInt64 := by decide
      rw [fault_integer_iff]
      rcases asInt64_cases n with ⟨hn, hread⟩ | ⟨hn, hread⟩ | ⟨hn, hread⟩
      · rw [hread]
        exact ⟨nofun, fun h => by omega⟩
      · rw [hread, Option.some.injEq]
        constructor
        · exact fun h => Or.inl ⟨hn, h.symm⟩
        · rintro (⟨_, rfl⟩ | ⟨hfar, _⟩)
          · rfl
          · omega
      · rw [hread, Option.some.injEq]
        constructor
        · exact fun h => Or.inr ⟨hn, h.symm⟩
        · rintro (⟨hlarge, _⟩ | ⟨_, rfl⟩)
          · omega
          · rfl
  | _ =>
      constructor
      · intro h
        obtain rfl := Option.some.inj h
        exact .noInteger (by simp)
      · rintro ⟨⟩
        rfl

/-! ### Every kind -/

/-- **A reader is content with the values that its kind admits, and with no others.** -/
theorem fault?_eq_none {k : Kind} {v : Json} : k.fault? v = none ↔ k.Admits v := by
  cases k with
  | text => exact asText_content
  | textOrNull => exact asText?_content
  | texts => exact asTexts_content
  | integer => exact asInt64_content

/-- **What a reader reports is the fault of its kind.** -/
theorem fault?_eq_some {k : Kind} {v : Json} {e : DecodeError} :
    k.fault? v = some e ↔ k.Fault v e := by
  cases k with
  | text =>
      rw [fault?, asText_fault]
      constructor
      · rintro ⟨h, rfl⟩
        exact .text h
      · intro h
        cases h with
        | text h => exact ⟨h, rfl⟩
  | textOrNull =>
      rw [fault?, asText?_fault]
      constructor
      · rintro ⟨h, rfl⟩
        exact .textOrNull h
      · intro h
        cases h with
        | textOrNull h => exact ⟨h, rfl⟩
  | texts => exact asTexts_fault
  | integer => exact asInt64_fault

end Kind

/-! ## The fields -/

/-- The fields of a dashboard. -/
inductive Field where
  | uid
  | title
  | folder
  | tags
  | views
  | createdAt
  | updatedAt
  deriving DecidableEq, Repr

namespace Field

/-- The name under which an object has the field. -/
def name : Field → String
  | uid => "uid"
  | title => "title"
  | folder => "folder"
  | tags => "tags"
  | views => "views"
  | createdAt => "created_at"
  | updatedAt => "updated_at"

/-- The place at which an array has the field. -/
def position : Field → Nat
  | uid => 0
  | title => 1
  | folder => 2
  | tags => 3
  | views => 4
  | createdAt => 5
  | updatedAt => 6

/-- What the field asks for. -/
def kind : Field → Kind
  | uid | title => .text
  | folder => .textOrNull
  | tags => .texts
  | views | createdAt | updatedAt => .integer

/-- An object may lack the field. -/
def optional : Field → Bool
  | folder | tags | views => true
  | _ => false

/-- An array may end before the field: unlike an object, it cannot leave out the folder. -/
def omissible : Field → Bool
  | tags | views => true
  | _ => false

/-- The fields in the order of their positions. -/
def all : List Field :=
  [uid, title, folder, tags, views, createdAt, updatedAt]

/-- The fields in the order of their names. -/
def byName : List Field :=
  [createdAt, folder, tags, title, uid, updatedAt, views]

theorem mem_all (f : Field) : f ∈ all := by
  cases f <;> decide

theorem mem_byName (f : Field) : f ∈ byName := by
  cases f <;> decide

/-- The fields are those that a dashboard is written with. -/
theorem all_names : all.map name = Dashboard.fieldNames := rfl

theorem all_sorted : all.Pairwise fun f g => f.position < g.position := by decide

theorem byName_sorted : byName.Pairwise fun f g => f.name < g.name := by decide

/-! ## A field of an object -/

variable (fields : List (String × Json))

/-- Where the object has the field, it holds a value that the field asks for. -/
def WellTyped (f : Field) : Prop :=
  ∀ v, Json.field? fields f.name = some v → f.kind.Admits v

/-- The object does not have the field, and may not lack it. -/
def Lacking (f : Field) : Prop :=
  f.optional = false ∧ Json.field? fields f.name = none

/-- What is reported of the value that the object has for the field. -/
def typeFault? (f : Field) : Option DecodeError :=
  (Json.field? fields f.name).bind f.kind.fault?

/-- What is reported of the field if the object does not have it. -/
def lackFault? (f : Field) : Option DecodeError :=
  if f.optional then none
  else if Json.field? fields f.name = none then some (.missing f.name) else none

variable {fields} {f : Field} {e : DecodeError}

theorem typeFault?_eq_none : f.typeFault? fields = none ↔ f.WellTyped fields := by
  rw [typeFault?, Option.bind_eq_none_iff]
  exact forall₂_congr fun v _ => Kind.fault?_eq_none

theorem typeFault?_eq_some :
    f.typeFault? fields = some e ↔ ∃ v, Json.field? fields f.name = some v ∧ f.kind.Fault v e := by
  rw [typeFault?, Option.bind_eq_some_iff]
  exact exists_congr fun v => and_congr_right fun _ => Kind.fault?_eq_some

theorem lackFault?_eq_some :
    f.lackFault? fields = some e ↔ f.Lacking fields ∧ e = .missing f.name := by
  rw [lackFault?, Lacking]
  cases f.optional with
  | true => simp
  | false => by_cases h : Json.field? fields f.name = none <;> simp [h, eq_comm]

theorem lackFault?_eq_none : f.lackFault? fields = none ↔ ¬ f.Lacking fields := by
  rw [lackFault?, Lacking]
  cases f.optional with
  | true => simp
  | false => by_cases h : Json.field? fields f.name = none <;> simp [h]

/-! ## A field of an array -/

variable (items : List Json)

/-- The array has at its place a value that the field asks for, or may end before it. -/
def WellPlaced (f : Field) : Prop :=
  match items[f.position]? with
  | some v => f.kind.Admits v
  | none => f.omissible = true

/-- What is wrong at the place of a field. -/
def PlaceFault (f : Field) (e : DecodeError) : Prop :=
  match items[f.position]? with
  | some v => f.kind.Fault v e
  | none => f.omissible = false ∧ e = .tooShort f.position

/-- What is reported of the place of a field. -/
def placeFault? (f : Field) : Option DecodeError :=
  match items[f.position]? with
  | some v => f.kind.fault? v
  | none => if f.omissible then none else some (.tooShort f.position)

variable {items}

theorem placeFault?_eq_none : f.placeFault? items = none ↔ f.WellPlaced items := by
  rw [placeFault?, WellPlaced]
  cases items[f.position]? with
  | some v => exact Kind.fault?_eq_none
  | none => simp

theorem placeFault?_eq_some : f.placeFault? items = some e ↔ f.PlaceFault items e := by
  rw [placeFault?, PlaceFault]
  cases items[f.position]? with
  | some v => exact Kind.fault?_eq_some
  | none =>
      cases f.omissible with
      | true => simp
      | false => simp [eq_comm]

end Field

namespace Dashboard

open DashIndex.Field

theorem readField_fault {α : Type} (fields : List (String × Json)) (key : String)
    (read : Json → Except DecodeError α) :
    faultOf (readField fields key read)
      = (Json.field? fields key).bind fun v => faultOf (read v) := by
  rw [readField]
  cases Json.field? fields key with
  | none => rfl
  | some v => exact faultOf_map some (read v)

/-- What was read of a field is missing if and only if the field is. -/
theorem required_fault {α : Type} {fields : List (String × Json)} {key : String}
    {read : Json → Except DecodeError α} {found : Option α}
    (h : readField fields key read = .ok found) :
    faultOf (required key found)
      = if Json.field? fields key = none then some (.missing key) else none := by
  rw [readField] at h
  cases hv : Json.field? fields key with
  | none =>
      rw [hv] at h
      obtain rfl := Except.ok.inj h
      rfl
  | some v =>
      rw [hv] at h
      dsimp only at h
      cases hread : read v with
      | error e =>
          rw [hread] at h
          exact nomatch h
      | ok a =>
          rw [hread] at h
          obtain rfl := Except.ok.inj h
          rfl

/-- **An object is read field by field in the order of names, and then asked for what it lacks.** -/
theorem ofFields_fault (fields : List (String × Json)) :
    faultOf (ofFields fields)
      = (byName.findSome? (typeFault? fields)).or (all.findSome? (lackFault? fields)) := by
  have hchain : faultOf (ofFields fields)
      = (typeFault? fields .createdAt).or ((typeFault? fields .folder).or
        ((typeFault? fields .tags).or ((typeFault? fields .title).or
        ((typeFault? fields .uid).or ((typeFault? fields .updatedAt).or
        ((typeFault? fields .views).or ((lackFault? fields .uid).or
        ((lackFault? fields .title).or ((lackFault? fields .createdAt).or
        ((lackFault? fields .updatedAt).or none)))))))))) := by
    rw [ofFields]
    refine faultOf_bind (readField_fault ..) fun createdAt' hcreated => ?_
    refine faultOf_bind (readField_fault ..) fun folder' hfolder => ?_
    refine faultOf_bind (readField_fault ..) fun tags' htags => ?_
    refine faultOf_bind (readField_fault ..) fun title' htitle => ?_
    refine faultOf_bind (readField_fault ..) fun uid' huid => ?_
    refine faultOf_bind (readField_fault ..) fun updatedAt' hupdated => ?_
    refine faultOf_bind (readField_fault ..) fun views' hviews => ?_
    refine faultOf_bind (required_fault huid) fun _ _ => ?_
    refine faultOf_bind (required_fault htitle) fun _ _ => ?_
    refine faultOf_bind (required_fault hcreated) fun _ _ => ?_
    exact faultOf_bind (required_fault hupdated) fun _ _ => rfl
  have hoptional : ∀ f : Field, f.optional = true → lackFault? fields f = none :=
    fun f hf => if_pos hf
  rw [hchain]
  simp only [byName, all, findSome?_cons_eq_or, List.findSome?_nil, hoptional .folder rfl,
    hoptional .tags rfl, hoptional .views rfl, Option.or_assoc, Option.none_or]

theorem readItem_fault {α : Type} (items : List Json) (f : Field)
    {read : Json → Except DecodeError α} {absent : Except DecodeError α}
    (hread : ∀ v, faultOf (read v) = f.kind.fault? v)
    (habsent : faultOf absent = if f.omissible then none else some (.tooShort f.position)) :
    faultOf (readItem items f.position read absent) = placeFault? items f := by
  rw [readItem, placeFault?]
  cases items[f.position]? with
  | some v => exact hread v
  | none => exact habsent

/-- **An array is read place by place, and then measured.** -/
theorem ofItems_fault (items : List Json) :
    faultOf (ofItems items)
      = (all.findSome? (placeFault? items)).or
          (if 7 < items.length then some (.tooLong items.length) else none) := by
  have hlength : ∀ d : Dashboard,
      faultOf (if 7 < items.length then .error (DecodeError.tooLong items.length) else .ok d)
        = if 7 < items.length then some (.tooLong items.length) else none := by
    intro d
    split
    · rfl
    · rfl
  simp only [all, findSome?_cons_eq_or, List.findSome?_nil, Option.or_assoc, Option.none_or]
  rw [ofItems]
  refine faultOf_bind (readItem_fault items .uid (fun _ => rfl) rfl) fun _ _ => ?_
  refine faultOf_bind (readItem_fault items .title (fun _ => rfl) rfl) fun _ _ => ?_
  refine faultOf_bind (readItem_fault items .folder (fun _ => rfl) rfl) fun _ _ => ?_
  refine faultOf_bind (readItem_fault items .tags (fun _ => rfl) rfl) fun _ _ => ?_
  refine faultOf_bind (readItem_fault items .views (fun _ => rfl) rfl) fun _ _ => ?_
  refine faultOf_bind (readItem_fault items .createdAt (fun _ => rfl) rfl) fun _ _ => ?_
  exact faultOf_bind (readItem_fault items .updatedAt (fun _ => rfl) rfl) fun _ _ => hlength _

/-! ## The fault that is reported -/

/-- The values that are dashboards. -/
inductive WellFormed : Json → Prop where
  /-- an object: nothing ill-typed under the seven names, and nothing that must be there missing -/
  | object {fields : List (String × Json)} (htyped : ∀ f : Field, f.WellTyped fields)
      (hthere : ∀ f : Field, ¬ f.Lacking fields) : WellFormed (.object fields)
  /-- an array: up to seven items, each well-typed for its place, and none missing but the last
  that may be -/
  | array {items : List Json} (hplaced : ∀ f : Field, f.WellPlaced items)
      (hlength : items.length ≤ 7) : WellFormed (.array items)

/-- The values that are none, and what is reported of them. -/
inductive Refusal : Json → DecodeError → Prop where
  /-- an object: the ill-typed field of the least name -/
  | illTyped {fields : List (String × Json)} {f : Field} {v : Json} {e : DecodeError}
      (hthere : Json.field? fields f.name = some v) (hfault : f.kind.Fault v e)
      (hleast : ∀ g : Field, g.name < f.name → g.WellTyped fields) : Refusal (.object fields) e
  /-- an object in which nothing is ill-typed: the field of the least position that it lacks -/
  | lacking {fields : List (String × Json)} {f : Field} (htyped : ∀ g : Field, g.WellTyped fields)
      (hlacking : f.Lacking fields)
      (hleast : ∀ g : Field, g.position < f.position → ¬ g.Lacking fields) :
      Refusal (.object fields) (.missing f.name)
  /-- an array: the place of the least position at which something is wrong -/
  | misplaced {items : List Json} {f : Field} {e : DecodeError} (hfault : f.PlaceFault items e)
      (hleast : ∀ g : Field, g.position < f.position → g.WellPlaced items) :
      Refusal (.array items) e
  /-- an array of seven good items, and more -/
  | tooLong {items : List Json} (hplaced : ∀ f : Field, f.WellPlaced items)
      (hlength : 7 < items.length) : Refusal (.array items) (.tooLong items.length)
  /-- neither an object nor an array -/
  | other {v : Json} (hobject : ∀ fields, v ≠ .object fields) (harray : ∀ items, v ≠ .array items) :
      Refusal v (.wrongType v .dashboard)

theorem ofFields_eq_error {fields : List (String × Json)} {e : DecodeError} :
    ofFields fields = .error e ↔ Refusal (.object fields) e := by
  rw [← faultOf_eq_some, ofFields_fault, Option.or_eq_some_iff,
    findSome?_eq_some_iff_least byName_sorted (fun _ _ h => String.lt_asymm h),
    findSome?_eq_some_iff_least all_sorted (fun _ _ h => Nat.lt_asymm h),
    List.findSome?_eq_none_iff]
  simp only [typeFault?_eq_none, typeFault?_eq_some, lackFault?_eq_none, lackFault?_eq_some,
    mem_all, mem_byName, true_and, true_imp_iff]
  constructor
  · rintro (⟨f, ⟨v, hv, hfault⟩, hleast⟩ | ⟨htyped, f, ⟨hlacking, rfl⟩, hleast⟩)
    · exact .illTyped hv hfault hleast
    · exact .lacking htyped hlacking hleast
  · intro h
    cases h with
    | illTyped hv hfault hleast => exact .inl ⟨_, ⟨_, hv, hfault⟩, hleast⟩
    | lacking htyped hlacking hleast => exact .inr ⟨htyped, _, ⟨hlacking, rfl⟩, hleast⟩
    | other hobject _ => exact absurd rfl (hobject fields)

theorem ofItems_eq_error {items : List Json} {e : DecodeError} :
    ofItems items = .error e ↔ Refusal (.array items) e := by
  rw [← faultOf_eq_some, ofItems_fault, Option.or_eq_some_iff,
    findSome?_eq_some_iff_least all_sorted (fun _ _ h => Nat.lt_asymm h),
    List.findSome?_eq_none_iff]
  simp only [placeFault?_eq_none, placeFault?_eq_some, mem_all, true_and, true_imp_iff,
    Option.ite_none_right_eq_some, Option.some.injEq]
  constructor
  · rintro (⟨f, hfault, hleast⟩ | ⟨hplaced, hlength, rfl⟩)
    · exact .misplaced hfault hleast
    · exact .tooLong hplaced hlength
  · intro h
    cases h with
    | misplaced hfault hleast => exact .inl ⟨_, hfault, hleast⟩
    | tooLong hplaced hlength => exact .inr ⟨hplaced, hlength, rfl⟩
    | other _ harray => exact absurd rfl (harray items)

theorem ofFields_eq_ok {fields : List (String × Json)} :
    (∃ d, ofFields fields = .ok d) ↔ WellFormed (.object fields) := by
  rw [← faultOf_eq_none, ofFields_fault, Option.or_eq_none_iff, List.findSome?_eq_none_iff,
    List.findSome?_eq_none_iff]
  simp only [typeFault?_eq_none, lackFault?_eq_none, mem_all, mem_byName, true_imp_iff]
  constructor
  · exact fun h => .object h.1 h.2
  · intro h
    cases h with
    | object htyped hthere => exact ⟨htyped, hthere⟩

theorem ofItems_eq_ok {items : List Json} :
    (∃ d, ofItems items = .ok d) ↔ WellFormed (.array items) := by
  rw [← faultOf_eq_none, ofItems_fault, Option.or_eq_none_iff, List.findSome?_eq_none_iff]
  simp only [placeFault?_eq_none, mem_all, true_imp_iff, ite_eq_right_iff, reduceCtorEq,
    imp_false, Nat.not_lt]
  constructor
  · exact fun h => .array h.1 h.2
  · intro h
    cases h with
    | array hplaced hlength => exact ⟨hplaced, hlength⟩

/--
**A value is read as a dashboard if and only if it is well-formed, and of every other one
the fault is determined.**
-/
theorem ofJson_faults (v : Json) :
    ((∃ d, ofJson v = .ok d) ↔ WellFormed v) ∧ ∀ e, ofJson v = .error e ↔ Refusal v e := by
  cases v with
  | object fields => exact ⟨ofFields_eq_ok, fun e => ofFields_eq_error⟩
  | array items => exact ⟨ofItems_eq_ok, fun e => ofItems_eq_error⟩
  | _ =>
      refine ⟨⟨nofun, nofun⟩, fun e => ⟨fun h => ?_, fun h => ?_⟩⟩
      · obtain rfl := Except.error.inj h
        exact .other (by simp) (by simp)
      · cases h with
        | other _ _ => rfl

/--
Three ill-typed fields and three missing ones: the tags have the least name, and their
second item is the first that is no text.
-/
theorem ofJson_faults_of_several :
    ¬ WellFormed (.object [("uid", .null), ("views", .string "many"),
        ("tags", .array [.string "home", .integer 1, .null])])
      ∧ Refusal (.object [("uid", .null), ("views", .string "many"),
          ("tags", .array [.string "home", .integer 1, .null])])
        (.wrongType (.integer 1) .text) := by
  have hread : ofJson (.object [("uid", .null), ("views", .string "many"),
      ("tags", .array [.string "home", .integer 1, .null])])
        = .error (.wrongType (.integer 1) .text) := rfl
  refine ⟨fun hwell => ?_, ((ofJson_faults _).2 _).mp hread⟩
  obtain ⟨d, hd⟩ := (ofJson_faults _).1.mpr hwell
  exact nomatch hread.symm.trans hd

end Dashboard

end DashIndex
