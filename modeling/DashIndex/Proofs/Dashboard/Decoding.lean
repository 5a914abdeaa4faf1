import DashIndex.Dashboard.Decoding
import Mathlib.Data.List.Nodup

/-!
# Dashboards survive being written and read

A dashboard is read from the values that seven names lead to, and from nothing else.
So it does not matter in which order the fields of an object stand, or what stands
there under other names. Three of the names have a value that counts as missing:
`null` for the folder, no tags, no views. `fieldOr` puts that value in the place of a
missing field, and a reader cannot tell the two apart.

Reading what was written is then one lookup and one reader for each field, in the
object as in the array.
-/

namespace DashIndex

namespace Json

/-! ## Looking up a field -/

theorem field?_cons (k : String) (v : Json) (fields : List (String × Json)) (key : String) :
    field? ((k, v) :: fields) key
      = (field? fields key).or (if k = key then some v else none) := by
  rw [field?]
  cases field? fields key with
  | none => rfl
  | some later => rfl

theorem field?_eq_none {fields : List (String × Json)} {key : String} :
    field? fields key = none ↔ key ∉ fields.map Prod.fst := by
  induction fields with
  | nil => simp [field?]
  | cons f fields ih =>
      obtain ⟨k, v⟩ := f
      rw [field?_cons, Option.or_eq_none_iff, ih, List.map_cons, List.mem_cons, not_or]
      by_cases hk : k = key
      · simp [hk]
      · have hk' : key ≠ k := fun h => hk h.symm
        simp [hk, hk']

theorem mem_of_field? {fields : List (String × Json)} {key : String} {v : Json}
    (h : field? fields key = some v) : (key, v) ∈ fields := by
  induction fields with
  | nil => exact absurd h (by simp [field?])
  | cons f fields ih =>
      obtain ⟨k, v'⟩ := f
      rw [field?_cons] at h
      cases hrest : field? fields key with
      | some later =>
          rw [hrest, Option.some_or] at h
          exact List.mem_cons_of_mem _ (ih (hrest.trans h))
      | none =>
          rw [hrest, Option.none_or] at h
          by_cases hk : k = key
          · rw [if_pos hk] at h
            have hv : v' = v := Option.some.inj h
            rw [hk, hv]
            exact List.mem_cons_self
          · rw [if_neg hk] at h
            exact absurd h (by simp)

/-- With distinct keys, what a key leads to is what stands beside it. -/
theorem field?_eq_some {fields : List (String × Json)} (h : (fields.map Prod.fst).Nodup)
    {key : String} {v : Json} : field? fields key = some v ↔ (key, v) ∈ fields := by
  constructor
  · exact mem_of_field?
  · intro hmem
    cases hv : field? fields key with
    | none => exact absurd (List.mem_map_of_mem hmem) (field?_eq_none.mp hv)
    | some v' =>
        have hsame : (key, v') = (key, v) :=
          List.inj_on_of_nodup_map h (mem_of_field? hv) hmem rfl
        rw [(Prod.mk.inj hsame).2]

/-- The order of distinct keys does not count. -/
theorem field?_of_perm {fields fields' : List (String × Json)}
    (h : (fields.map Prod.fst).Nodup) (hperm : fields'.Perm fields) (key : String) :
    field? fields' key = field? fields key := by
  have h' : (fields'.map Prod.fst).Nodup := (hperm.map _).nodup_iff.mpr h
  cases hv : field? fields key with
  | none =>
      rw [field?_eq_none] at hv ⊢
      intro hmem
      exact hv ((hperm.map _).mem_iff.mp hmem)
  | some v =>
      rw [field?_eq_some h] at hv
      rw [field?_eq_some h']
      exact hperm.mem_iff.mpr hv

/-- Fields that are taken out by their keys do not count for the keys that stay. -/
theorem field?_filter (p : String → Bool) {key : String} (hkey : p key = true)
    (fields : List (String × Json)) :
    field? (fields.filter fun f => p f.1) key = field? fields key := by
  induction fields with
  | nil => rfl
  | cons f fields ih =>
      obtain ⟨k, v⟩ := f
      rw [List.filter_cons, field?_cons]
      by_cases hp : p k = true
      · rw [if_pos hp, field?_cons, ih]
      · have hk : k ≠ key := fun h => hp (h ▸ hkey)
        rw [if_neg hp, if_neg hk, ih, Option.or_none]

/-- What a key leads to, or the value that a missing field counts as. -/
def fieldOr (fields : List (String × Json)) (key : String) (absent : Json) : Json :=
  (field? fields key).getD absent

/-! ## Reading a value that was written -/

theorem asText?_ofText? (f : Option String) : asText? (ofText? f) = .ok f := by
  cases f with
  | none => rfl
  | some s => rfl

theorem asInt64_toInt (n : Int64) : asInt64 (.integer n.toInt) = .ok n := by
  have hlo : Text.minInt64 ≤ n.toInt := n.le_toInt
  have hhi : n.toInt ≤ Text.maxInt64 := n.toInt_le
  rw [asInt64, if_pos ⟨hlo, hhi⟩, Int64.ofInt_toInt]

theorem asTexts_map_string (ts : List String) : asTexts (.array (ts.map .string)) = .ok ts := by
  rw [asTexts]
  induction ts with
  | nil => rfl
  | cons t ts ih =>
      rw [List.map_cons, asTextList, asText]
      dsimp only
      rw [ih]
      rfl

end Json

namespace Dashboard

/-! ## What a dashboard is read from -/

/--
A field that may be missing is read as if it stood there with the value that it counts
as when it is missing.
-/
theorem readField_bind {α β : Type} (fields : List (String × Json)) (key : String)
    {read : Json → Except DecodeError α} {absent : Json} {dflt : α}
    (h : read absent = .ok dflt) (k : α → Except DecodeError β) :
    (readField fields key read >>= fun found => k (found.getD dflt))
      = read (Json.fieldOr fields key absent) >>= k := by
  unfold readField Json.fieldOr
  cases Json.field? fields key with
  | none =>
      rw [Option.getD_none, h]
      rfl
  | some v =>
      rw [Option.getD_some]
      dsimp only
      cases read v with
      | error e => rfl
      | ok a => rfl

/-- **A dashboard is read from seven lookups.** -/
theorem ofFields_eq (fields : List (String × Json)) :
    ofFields fields = (do
      let createdAt ← readField fields "created_at" Json.asInt64
      let folder ← Json.asText? (Json.fieldOr fields "folder" .null)
      let tags ← Json.asTexts (Json.fieldOr fields "tags" (.array []))
      let title ← readField fields "title" Json.asText
      let uid ← readField fields "uid" Json.asText
      let updatedAt ← readField fields "updated_at" Json.asInt64
      let views ← Json.asInt64 (Json.fieldOr fields "views" (.integer 0))
      let uid ← required "uid" uid
      let title ← required "title" title
      let createdAt ← required "created_at" createdAt
      let updatedAt ← required "updated_at" updatedAt
      return ⟨uid, title, folder, tags, views, createdAt, updatedAt⟩) := by
  unfold ofFields
  refine bind_congr fun createdAt => ?_
  rw [← readField_bind fields "folder" (show Json.asText? .null = .ok none from rfl)]
  refine bind_congr fun folder => ?_
  rw [← readField_bind fields "tags" (show Json.asTexts (.array []) = .ok [] from rfl)]
  refine bind_congr fun tags => ?_
  refine bind_congr fun title => ?_
  refine bind_congr fun uid => ?_
  refine bind_congr fun updatedAt => ?_
  rw [← readField_bind fields "views" (show Json.asInt64 (.integer 0) = .ok 0 from rfl)]

/-- Objects that say the same under the seven names are read the same. -/
theorem ofFields_congr {fields fields' : List (String × Json)}
    (hrequired : ∀ key ∈ ["uid", "title", "created_at", "updated_at"],
      Json.field? fields key = Json.field? fields' key)
    (hfolder : Json.fieldOr fields "folder" .null = Json.fieldOr fields' "folder" .null)
    (htags : Json.fieldOr fields "tags" (.array []) = Json.fieldOr fields' "tags" (.array []))
    (hviews : Json.fieldOr fields "views" (.integer 0)
      = Json.fieldOr fields' "views" (.integer 0)) :
    ofFields fields = ofFields fields' := by
  have huid := hrequired "uid" (by simp)
  have htitle := hrequired "title" (by simp)
  have hcreated := hrequired "created_at" (by simp)
  have hupdated := hrequired "updated_at" (by simp)
  rw [ofFields_eq, ofFields_eq, hfolder, htags, hviews]
  simp only [readField, huid, htitle, hcreated, hupdated]

theorem ofFields_of_field? {fields fields' : List (String × Json)}
    (h : ∀ key ∈ fieldNames, Json.field? fields key = Json.field? fields' key) :
    ofFields fields = ofFields fields' := by
  have hor : ∀ key ∈ fieldNames, ∀ absent,
      Json.fieldOr fields key absent = Json.fieldOr fields' key absent := by
    intro key hkey absent
    rw [Json.fieldOr, Json.fieldOr, h key hkey]
  have hrequired : ∀ key ∈ ["uid", "title", "created_at", "updated_at"], key ∈ fieldNames := by
    decide
  exact ofFields_congr (fun key hkey => h key (hrequired key hkey))
    (hor _ (by decide) _) (hor _ (by decide) _) (hor _ (by decide) _)

/-! ## Missing fields -/

/-- The fields that may be missing, each with the value that it counts as then. -/
def optionalFields : List (String × Json) :=
  [("folder", .null), ("tags", .array []), ("views", .integer 0)]

/-- Leaving out a field with the value that it counts as when it is missing changes nothing. -/
theorem ofFields_omit {fields : List (String × Json)} {key : String} {absent : Json}
    (hkey : (key, absent) ∈ optionalFields) (hv : Json.field? fields key = some absent) :
    ofFields (fields.filter fun f => f.1 != key) = ofFields fields := by
  have hother : ∀ k, k ≠ key →
      Json.field? (fields.filter fun f => f.1 != key) k = Json.field? fields k := by
    intro k hk
    exact Json.field?_filter (· != key) (bne_iff_ne.mpr hk) fields
  have hgone : Json.field? (fields.filter fun f => f.1 != key) key = none := by
    rw [Json.field?_eq_none]
    intro hmem
    obtain ⟨f, hf, hname⟩ := List.mem_map.mp hmem
    have hne := (List.mem_filter.mp hf).2
    exact bne_iff_ne.mp hne hname
  have hor : ∀ k a, k ≠ key ∨ a = absent →
      Json.fieldOr (fields.filter fun f => f.1 != key) k a = Json.fieldOr fields k a := by
    intro k a h
    unfold Json.fieldOr
    by_cases hk : k = key
    · rcases h with hne | ha
      · exact absurd hk hne
      · rw [hk, hgone, hv, Option.getD_none, Option.getD_some, ha]
    · rw [hother k hk]
  have hside : (∀ k ∈ ["uid", "title", "created_at", "updated_at"], k ≠ key)
      ∧ ("folder" ≠ key ∨ Json.null = absent) ∧ ("tags" ≠ key ∨ Json.array [] = absent)
      ∧ ("views" ≠ key ∨ Json.integer 0 = absent) := by
    simp only [optionalFields, List.mem_cons, List.not_mem_nil, or_false, Prod.mk.injEq] at hkey
    rcases hkey with ⟨rfl, rfl⟩ | ⟨rfl, rfl⟩ | ⟨rfl, rfl⟩ <;> simp
  obtain ⟨hrequired, hfolder, htags, hviews⟩ := hside
  exact ofFields_congr (fun k hk => hother k (hrequired k hk)) (hor _ _ hfolder) (hor _ _ htags)
    (hor _ _ hviews)

/-! ## Written and read -/

/-- The values of a dashboard, in the order of `fieldNames`. -/
def values (d : Dashboard) : List Json :=
  [.string d.uid, .string d.title, Json.ofText? d.folder, .array (d.tags.map .string),
    .integer d.views.toInt, .integer d.createdAt.toInt, .integer d.updatedAt.toInt]

/-- A dashboard is written as its values under their names. -/
theorem toJson_eq_zip (d : Dashboard) : d.toJson = .object (fieldNames.zip d.values) := rfl

theorem ofJson_toJson (d : Dashboard) : ofJson d.toJson = .ok d := by
  rw [toJson, ofJson, ofFields_eq]
  simp only [readField, Json.fieldOr, Json.field?, String.reduceEq, if_true, if_false,
    Option.getD_some, Json.asText?_ofText?, Json.asTexts_map_string, Json.asInt64_toInt,
    Json.asText, Except.map, required]
  rfl

theorem ofJson_values (d : Dashboard) : ofJson (.array d.values) = .ok d := by
  rw [values, ofJson, ofItems]
  simp only [readItem, List.getElem?_cons_zero, List.getElem?_cons_succ, Json.asText,
    Json.asText?_ofText?, Json.asTexts_map_string, Json.asInt64_toInt]
  rfl

/--
**A dashboard survives being written and read, in either form.**

It is read back from the object that it is written as, and from the array of its
values. Of any object only the values of the seven fields count: their order does not,
nor what stands under other names, and a field may be left out if its value is the one
that it counts as when it is missing. So whatever a dashboard was read from, writing it
and reading it again gives the same dashboard.
-/
theorem ofJson_round_trip :
    (∀ d : Dashboard, ofJson d.toJson = .ok d ∧ ofJson (.array d.values) = .ok d)
      ∧ (∀ fields fields' : List (String × Json),
          (fields.map Prod.fst).Nodup → fields'.Perm fields →
          ofJson (.object fields') = ofJson (.object fields))
      ∧ (∀ fields fields' : List (String × Json),
          (fields'.filter fun f => f.1 ∈ fieldNames) = (fields.filter fun f => f.1 ∈ fieldNames) →
          ofJson (.object fields') = ofJson (.object fields))
      ∧ (∀ (fields : List (String × Json)) (key : String) (absent : Json),
          (key, absent) ∈ optionalFields → Json.field? fields key = some absent →
          ofJson (.object (fields.filter fun f => f.1 != key)) = ofJson (.object fields))
      ∧ (∀ (j : Json) (d : Dashboard), ofJson j = .ok d → ofJson d.toJson = ofJson j) := by
  refine ⟨fun d => ⟨ofJson_toJson d, ofJson_values d⟩, ?_, ?_, ?_, ?_⟩
  · intro fields fields' hnodup hperm
    exact ofFields_of_field? fun key _ => Json.field?_of_perm hnodup hperm key
  · intro fields fields' hknown
    refine ofFields_of_field? fun key hkey => ?_
    have hin : decide (key ∈ fieldNames) = true := decide_eq_true hkey
    rw [← Json.field?_filter (· ∈ fieldNames) hin fields',
      ← Json.field?_filter (· ∈ fieldNames) hin fields]
    exact congrArg (Json.field? · key) hknown
  · intro fields key absent hkey hv
    exact ofFields_omit hkey hv
  · intro j d h
    rw [ofJson_toJson, h]

/-- A dashboard with awkward values. -/
def awkward : Dashboard :=
  { uid := "\x00", title := "\"", tags := ["b", "b", ""], createdAt := Int64.minValue,
    updatedAt := Int64.maxValue }

/-- Its fields backwards, without the folder and with a field that means nothing. -/
def shuffled : List (String × Json) :=
  [("updated_at", .integer 9223372036854775807), ("created_at", .integer (-9223372036854775808)),
    ("views", .integer 0), ("tags", .array [.string "b", .string "b", .string ""]),
    ("Title", .bool true), ("title", .string "\""), ("uid", .string "\x00")]

/-- Shuffled fields are read as the same dashboard, with and without the views. -/
theorem ofJson_round_trip_of_shuffled :
    ofJson (.object shuffled) = .ok awkward
      ∧ ofJson (.object (shuffled.filter fun f => f.1 != "views")) = .ok awkward
      ∧ ofJson (.array awkward.values) = ofJson awkward.toJson := by
  obtain ⟨hwritten, horder, hknown, hmissing, hagain⟩ := ofJson_round_trip
  let written := fieldNames.zip awkward.values
  let rest := written.filter fun f => f.1 != "folder"
  have hfolder : ofJson (.object rest) = ofJson awkward.toJson :=
    hmissing written "folder" .null (by simp [optionalFields]) rfl
  have hreverse : ofJson (.object rest.reverse) = ofJson (.object rest) :=
    horder rest rest.reverse (by decide) (List.reverse_perm rest)
  have hextra : ofJson (.object shuffled) = ofJson (.object rest.reverse) :=
    hknown rest.reverse shuffled rfl
  have hshuffled : ofJson (.object shuffled) = .ok awkward := by
    rw [hextra, hreverse, hfolder, (hwritten awkward).1]
  have hviews : ofJson (.object (shuffled.filter fun f => f.1 != "views"))
      = ofJson (.object shuffled) :=
    hmissing shuffled "views" (.integer 0) (by simp [optionalFields]) rfl
  refine ⟨hshuffled, hviews.trans hshuffled, ?_⟩
  rw [hagain _ _ hshuffled, hshuffled, (hwritten awkward).2]

end Dashboard

end DashIndex
