import DashIndex.CommandLine.Report
import DashIndex.Proofs.Json.RoundTrip
import Mathlib.Data.List.Forall2

/-!
# What a search prints as JSON

The hits are printed as an array of objects. A text, a number or a list of tags can be
anything, and a written value is read back whatever it holds, so all that is left is
that an object tells the hit: every field of the hit has its key, and the two kinds of
"none" stay apart, the folder that is `null` and the sort fields that are left out.
-/

namespace DashIndex

/-! ## One hit -/

/--
The fields of an object are those of a hit. The folder is there in any case, as `null` if
there is none; the two sort fields are there exactly if the hit has them.
-/
structure Hit.SpelledBy (h : Hit) (fields : List (String × Json)) : Prop where
  keys : fields.map Prod.fst
    = ["id", "uid", "title", "folder", "tags"]
      ++ (if h.sortMeta.isSome then ["sortMeta"] else [])
      ++ (if h.sortMetaName.isSome then ["sortMetaName"] else [])
  id : Json.field? fields "id" = some (.integer h.id)
  uid : Json.field? fields "uid" = some (.string h.uid)
  title : Json.field? fields "title" = some (.string h.title)
  noFolder : h.folder = none → Json.field? fields "folder" = some .null
  folder : ∀ folder, h.folder = some folder → Json.field? fields "folder" = some (.string folder)
  tags : Json.field? fields "tags" = some (.array (h.tags.map .string))
  sortMeta : Json.field? fields "sortMeta" = h.sortMeta.map (.integer ·.toInt)
  sortMetaName : Json.field? fields "sortMetaName" = h.sortMetaName.map .string

theorem Hit.toJson_spelledBy (h : Hit) : ∃ fields, h.toJson = .object fields ∧ h.SpelledBy fields := by
  obtain ⟨id, uid, title, folder, tags, sortMeta, sortMetaName⟩ := h
  refine ⟨_, rfl, ?_⟩
  cases folder <;> cases sortMeta <;> cases sortMetaName
  all_goals constructor <;> simp [Json.field?, Json.ofText?]

/-- **An object tells the hit.** -/
theorem Hit.SpelledBy.eq {h h' : Hit} {fields : List (String × Json)} (hs : h.SpelledBy fields)
    (hs' : h'.SpelledBy fields) : h = h' := by
  have hid : h.id = h'.id := Json.integer.inj (Option.some.inj (hs.id.symm.trans hs'.id))
  have huid : h.uid = h'.uid := Json.string.inj (Option.some.inj (hs.uid.symm.trans hs'.uid))
  have htitle : h.title = h'.title :=
    Json.string.inj (Option.some.inj (hs.title.symm.trans hs'.title))
  have hfolder : h.folder = h'.folder := by
    -- `null` is not a text, so that a folder and none are told apart
    cases hf : h.folder with
    | none =>
        cases hf' : h'.folder with
        | none => rfl
        | some f' => exact absurd ((hs.noFolder hf).symm.trans (hs'.folder f' hf')) (by simp)
    | some f =>
        cases hf' : h'.folder with
        | none => exact absurd ((hs.folder f hf).symm.trans (hs'.noFolder hf')) (by simp)
        | some f' =>
            exact congrArg some
              (Json.string.inj (Option.some.inj ((hs.folder f hf).symm.trans (hs'.folder f' hf'))))
  have htags : h.tags = h'.tags :=
    (List.map_inj_right fun _ _ => Json.string.inj).mp
      (Json.array.inj (Option.some.inj (hs.tags.symm.trans hs'.tags)))
  have hmeta : h.sortMeta = h'.sortMeta :=
    (Option.map_inj_right fun _ _ hv => Int64.toInt_inj.mp (Json.integer.inj hv)).mp
      (hs.sortMeta.symm.trans hs'.sortMeta)
  have hname : h.sortMetaName = h'.sortMetaName :=
    (Option.map_inj_right fun _ _ => Json.string.inj).mp (hs.sortMetaName.symm.trans hs'.sortMetaName)
  cases h
  cases h'
  rw [Hit.mk.injEq]
  exact ⟨hid, huid, htitle, hfolder, htags, hmeta, hname⟩

/-- Different hits have different objects. -/
theorem Hit.toJson_injective {h h' : Hit} (heq : h.toJson = h'.toJson) : h = h' := by
  obtain ⟨fields, hfields, hspelled⟩ := h.toJson_spelledBy
  obtain ⟨fields', hfields', hspelled'⟩ := h'.toJson_spelledBy
  obtain rfl : fields = fields' := Json.object.inj (hfields.symm.trans (heq.trans hfields'))
  exact hspelled.eq hspelled'

/-- The objects of hits, in the order of the hits. -/
theorem Hit.map_toJson_spelledBy (hits : List Hit) :
    ∃ objects, hits.map Hit.toJson = objects.map .object
      ∧ List.Forall₂ Hit.SpelledBy hits objects := by
  induction hits with
  | nil => exact ⟨[], rfl, .nil⟩
  | cons h hits ih =>
      obtain ⟨fields, hfields, hspelled⟩ := h.toJson_spelledBy
      obtain ⟨objects, hobjects, hall⟩ := ih
      exact ⟨fields :: objects, by rw [List.map_cons, hfields, hobjects]; rfl, .cons hspelled hall⟩

/-! ## What is printed -/

namespace CommandLine

/-- The printed text is one value and a line break, and reads as the array of the values. -/
theorem parse?_jsonLines (vs : List Json) :
    ∃ text, jsonLines vs = text ++ "\n" ∧ Json.parse? text = some (.array vs)
      ∧ Json.parse? (jsonLines vs) = some (.array vs) := by
  have htext := Json.parse?_pretty (.array vs) "" (by simp)
  rw [String.append_empty] at htext
  exact ⟨_, rfl, htext, Json.parse?_pretty (.array vs) "\n" (List.all_eq_true.mp rfl)⟩

/-- Different values are printed differently. -/
theorem jsonLines_injective {vs ws : List Json} (h : jsonLines vs = jsonLines ws) : vs = ws := by
  obtain ⟨_, _, _, hvs⟩ := parse?_jsonLines vs
  obtain ⟨_, _, _, hws⟩ := parse?_jsonLines ws
  rw [h] at hvs
  exact Json.array.inj (Option.some.inj (hvs.symm.trans hws))

/--
**The JSON that a search prints loses nothing.**

The text is one value with a line break after it. It is read back as the array of the
hits in their order, each an object with exactly its keys and values. So the hits are
told by the text.
-/
theorem reportHits_json (hits : List Hit) :
    (∃ text objects, reportHits true hits = text ++ "\n"
        ∧ Json.parse? text = some (.array (objects.map .object))
        ∧ Json.parse? (reportHits true hits) = some (.array (objects.map .object))
        ∧ List.Forall₂ Hit.SpelledBy hits objects)
      ∧ ∀ hits', reportHits true hits = reportHits true hits' ↔ hits = hits' := by
  have hprinted (hits : List Hit) : reportHits true hits = jsonLines (hits.map Hit.toJson) := rfl
  refine ⟨?_, fun hits' => ⟨fun h => ?_, congrArg _⟩⟩
  · obtain ⟨objects, hobjects, hall⟩ := Hit.map_toJson_spelledBy hits
    obtain ⟨text, hline, htext, hread⟩ := parse?_jsonLines (hits.map Hit.toJson)
    rw [← hprinted] at hline hread
    rw [hobjects] at htext hread
    exact ⟨text, objects, hline, htext, hread, hall⟩
  · rw [hprinted, hprinted] at h
    exact (List.map_inj_right fun _ _ => Hit.toJson_injective).mp (jsonLines_injective h)

end CommandLine

end DashIndex
