import DashIndex.Proofs.Query.Statement
import DashIndex.Proofs.Search.Membership

/-!
# Placeholders and their values

A statement is text with placeholders in it, and its values are a list beside it: what
ties a value to its clause is nothing but the count of placeholders before it. A `Slot`
holds the two together. It is one placeholder with the clause that leads up to it, the
value that belongs to it, and what is still to be written of the clause after it.

The slots of a query are listed once, and both the text and the values are read off
that list: `Slot.write` puts the text together, and the values are those of the slots
in their order. So cutting the text at its question marks gives back the clauses, as
long as none is in a clause itself. The only clauses that could have one are those
that a sort option brings along.
-/

namespace DashIndex

/-! ## Slots -/

/-- One placeholder of a statement. -/
structure Slot where
  /-- the clause up to the placeholder -/
  clause : String
  /-- the value that belongs there -/
  value : Param
  /-- the clause after the placeholder -/
  rest : String

namespace Slot

/-- A text and the slots after it, written out. -/
def write : String → List Slot → String
  | before, [] => before
  | before, s :: slots => before ++ s.clause ++ "?" ++ write s.rest slots

/-- What stands before, between and after the placeholders. -/
def pieces : String → List Slot → List String
  | before, [] => [before]
  | before, s :: slots => (before ++ s.clause) :: pieces s.rest slots

/-- No question mark is in the clause, so that all there are stand for values. -/
structure Plain (s : Slot) : Prop where
  clause : '?' ∉ s.clause.toList
  rest : '?' ∉ s.rest.toList

theorem write_eq_append (before : String) (slots : List Slot) :
    write before slots = before ++ write "" slots := by
  cases slots with
  | nil => rw [write, write, String.append_empty]
  | cons s slots =>
      rw [write, write, String.empty_append, String.append_assoc, String.append_assoc,
        String.append_assoc]

theorem count_write {before : String} {slots : List Slot} (hbefore : '?' ∉ before.toList)
    (hslots : ∀ s ∈ slots, s.Plain) : (write before slots).toList.count '?' = slots.length := by
  induction slots generalizing before with
  | nil => rw [write, List.count_eq_zero.mpr hbefore, List.length_nil]
  | cons s slots ih =>
      have hs := hslots s List.mem_cons_self
      have hrest := ih hs.rest fun s' hs' => hslots s' (List.mem_cons_of_mem s hs')
      rw [write, String.toList_append, String.toList_append, String.toList_append,
        List.count_append, List.count_append, List.count_append, hrest,
        List.count_eq_zero.mpr hbefore, List.count_eq_zero.mpr hs.clause, List.length_cons,
        show "?".toList.count '?' = 1 from rfl]
      omega

end Slot

/-- A text cut at its question marks. -/
def cutAtMarks (text : String) : List String :=
  (text.toList.splitOn '?').map String.ofList

namespace Slot

/-- **Cutting at the placeholders undoes writing.** -/
theorem cutAtMarks_write {before : String} {slots : List Slot} (hbefore : '?' ∉ before.toList)
    (hslots : ∀ s ∈ slots, s.Plain) : cutAtMarks (write before slots) = pieces before slots := by
  unfold cutAtMarks
  induction slots generalizing before with
  | nil =>
      rw [write, pieces, List.splitOn_eq_singleton hbefore, List.map_singleton,
        String.ofList_toList]
  | cons s slots ih =>
      have hs := hslots s List.mem_cons_self
      have hrest := ih hs.rest fun s' hs' => hslots s' (List.mem_cons_of_mem s hs')
      have hlead : '?' ∉ (before ++ s.clause).toList := by
        rw [String.toList_append, List.mem_append, not_or]
        exact ⟨hbefore, hs.clause⟩
      have htext : (write before (s :: slots)).toList
          = (before ++ s.clause).toList ++ '?' :: (write s.rest slots).toList := by
        rw [write, String.toList_append, String.toList_append, List.append_assoc]
        rfl
      have hmark : ∀ c ∈ (before ++ s.clause).toList, (c == '?') = false := by
        intro c hc
        rw [beq_eq_false_iff_ne]
        exact fun heq => hlead (heq ▸ hc)
      rw [htext, List.splitOn,
        List.splitOnP_append_cons_of_forall_mem hmark '?' (beq_self_eq_true '?'),
        List.map_cons, String.ofList_toList, pieces]
      exact congrArg _ hrest

/-- The piece before a placeholder ends in the clause of its slot. -/
theorem getElem?_pieces (before : String) {slots : List Slot} {k : Nat} {s : Slot}
    (h : slots[k]? = some s) : ∃ lead, (pieces before slots)[k]? = some (lead ++ s.clause) := by
  induction slots generalizing before k with
  | nil => exact absurd h (by simp)
  | cons s' slots ih =>
      cases k with
      | zero =>
          rw [List.getElem?_cons_zero] at h
          obtain rfl := Option.some.inj h
          exact ⟨before, by rw [pieces, List.getElem?_cons_zero]⟩
      | succ k =>
          rw [List.getElem?_cons_succ] at h
          obtain ⟨lead, hlead⟩ := ih s'.rest h
          exact ⟨lead, by rw [pieces, List.getElem?_cons_succ, hlead]⟩

end Slot

/-! ## The slots of a statement -/

/-- The slot of a condition: what of its clause stands before and after the placeholder. -/
def Condition.slot : Condition → Slot
  | .titleLike pattern => ⟨" AND d.title LIKE ", .text pattern, " ESCAPE '\\'"⟩
  | .inFolder folder => ⟨" AND d.folder = ", .text folder, ""⟩
  | .hasTag tag =>
    ⟨" AND EXISTS (SELECT 1 FROM dashboard_tags t WHERE t.dashboard_id = d.id AND t.term = ",
      .text tag, ")"⟩

theorem Condition.clause_eq_slot (c : Condition) :
    c.clause = c.slot.clause ++ "?" ++ c.slot.rest := by
  cases c <;> rfl

theorem Condition.value_slot (c : Condition) : c.slot.value = c.param := by
  cases c <;> rfl

theorem Condition.plain_slot (c : Condition) : c.slot.Plain := by
  cases c with
  | titleLike pattern =>
      exact ⟨show '?' ∉ " AND d.title LIKE ".toList by decide,
        show '?' ∉ " ESCAPE '\\'".toList by decide⟩
  | inFolder folder =>
      exact ⟨show '?' ∉ " AND d.folder = ".toList by decide, List.not_mem_nil⟩
  | hasTag tag =>
      exact ⟨show '?' ∉ (" AND EXISTS (SELECT 1 FROM dashboard_tags t"
          ++ " WHERE t.dashboard_id = d.id AND t.term = ").toList by decide,
        show '?' ∉ ")".toList by decide⟩

namespace Plan

/-- The text of a statement before its conditions. -/
def opening (p : Plan) : String :=
  "SELECT d.id, d.uid, d.title, d.folder, " ++ p.selected
    ++ " AS sort_meta FROM dashboards d WHERE 1 = 1"

/-- The order terms of a statement, up to the placeholder of its limit. -/
def orderClause (p : Plan) : String :=
  " ORDER BY " ++ ordering p.terms ++ " LIMIT "

/-- The slots of a statement: its conditions, then its limit and its offset. -/
def slots (p : Plan) : List Slot :=
  p.conditions.map Condition.slot
    ++ [⟨p.orderClause, .integer p.window.limit, ""⟩, ⟨" OFFSET ", .integer p.window.offset, ""⟩]

theorem write_conditions (before : String) (cs : List Condition) (slots : List Slot) :
    Slot.write before (cs.map Condition.slot ++ slots)
      = before ++ clauses cs ++ Slot.write "" slots := by
  induction cs generalizing before with
  | nil => rw [List.map_nil, List.nil_append, clauses, String.append_empty, Slot.write_eq_append]
  | cons c cs ih =>
      rw [List.map_cons, List.cons_append, Slot.write, ih, clauses, c.clause_eq_slot]
      simp only [String.append_assoc]

/-- **A statement is its slots written out.** -/
theorem sql_eq_write (p : Plan) : p.sql = Slot.write p.opening p.slots := by
  have hwindow : " LIMIT ? OFFSET ?" = " LIMIT " ++ ("?" ++ (" OFFSET " ++ "?")) := by simp
  unfold sql opening slots orderClause
  simp only [write_conditions, Slot.write, hwindow, String.append_assoc, String.empty_append,
    String.append_empty]

/-- **Its parameters are the values of its slots.** -/
theorem params_eq_values (p : Plan) : p.params = p.slots.map Slot.value := by
  have hvalue : Slot.value ∘ Condition.slot = Condition.param := funext Condition.value_slot
  rw [params, slots, List.map_append, List.map_map, hvalue, List.map_cons, List.map_cons,
    List.map_nil]

/-! ### Where question marks could come from -/

theorem markless_append {a b : String} (ha : '?' ∉ a.toList) (hb : '?' ∉ b.toList) :
    '?' ∉ (a ++ b).toList := by
  rw [String.toList_append, List.mem_append, not_or]
  exact ⟨ha, hb⟩

theorem markless_ordering {ts : List OrderTerm} (h : ∀ t ∈ ts, '?' ∉ t.orderBy.toList) :
    '?' ∉ (ordering ts).toList := by
  induction ts with
  | nil => exact show '?' ∉ "d.id ASC".toList by decide
  | cons t ts ih =>
      rw [ordering]
      refine markless_append (markless_append (h t List.mem_cons_self) (by decide)) (ih ?_)
      exact fun t' ht' => h t' (List.mem_cons_of_mem t ht')

/-- The clauses of a statement have no question mark if its order terms have none. -/
theorem plain_of_mem_slots {p : Plan} (hterms : ∀ t ∈ p.terms, '?' ∉ t.orderBy.toList) :
    ∀ s ∈ p.slots, s.Plain := by
  intro s hs
  rcases List.mem_append.mp hs with hs | hs
  · obtain ⟨c, _, rfl⟩ := List.mem_map.mp hs
    exact c.plain_slot
  · have hempty : '?' ∉ "".toList := List.not_mem_nil
    rcases List.mem_cons.mp hs with rfl | hs
    · exact ⟨markless_append (markless_append (by decide) (markless_ordering hterms)) (by decide),
        hempty⟩
    · obtain rfl := List.mem_singleton.mp hs
      exact ⟨show '?' ∉ " OFFSET ".toList by decide, hempty⟩

theorem markless_opening {p : Plan} (hcolumn : ∀ c, p.metaColumn = some c → '?' ∉ c.toList) :
    '?' ∉ p.opening.toList := by
  have hselected : '?' ∉ p.selected.toList := by
    unfold selected
    cases hc : p.metaColumn with
    | none => exact show '?' ∉ "NULL".toList by decide
    | some c => exact markless_append (by decide) (hcolumn c hc)
  exact markless_append (markless_append (by decide) hselected) (by decide)

end Plan

/-! ## The slots of a query -/

/-- The slots of a query that is answered with a sort option. -/
def Query.slots (q : Query) (o : SortOption) : List Slot :=
  (if q.needle = [] then []
    else [Condition.slot (.titleLike ("%" ++ String.ofList (Text.Like.escape q.needle) ++ "%"))])
    ++ q.folder.toList.map (fun folder => Condition.slot (.inFolder folder))
    ++ q.tags.map (fun tag => Condition.slot (.hasTag tag))
    ++ [⟨" ORDER BY " ++ ", ".intercalate (o.terms.map OrderTerm.orderBy ++ ["d.id ASC"])
        ++ " LIMIT ", .integer q.limit.toNat, ""⟩,
      ⟨" OFFSET ", .integer q.offset, ""⟩]

theorem Query.pattern?_toList (q : Query) :
    q.pattern?.toList
      = if q.needle = [] then []
        else ["%" ++ String.ofList (Text.Like.escape q.needle) ++ "%"] := by
  by_cases hblank : q.needle = []
  · rw [Query.pattern?_of_blank hblank, if_pos hblank]
    rfl
  · have hwritten : String.ofList (Text.Like.containing q.needle)
        = "%" ++ String.ofList (Text.Like.escape q.needle) ++ "%" := by
      have hpercent : "%".toList = ['%'] := rfl
      rw [← String.toList_inj, String.toList_append, String.toList_append, hpercent]
      simp only [String.toList_ofList, Text.Like.containing, List.cons_append, List.nil_append]
    rw [Query.pattern?_of_not_blank hblank, if_neg hblank, hwritten, Option.toList_some]

/-- The slots of a plan are those of its query. -/
theorem Query.slots_planWith (q : Query) (o : SortOption) :
    (q.planWith o ⟨q.limit.toNat, q.offset⟩).slots = q.slots o := by
  have htext : q.pattern?.toList.map (fun pattern => Condition.slot (.titleLike pattern))
      = if q.needle = [] then []
        else [Condition.slot
          (.titleLike ("%" ++ String.ofList (Text.Like.escape q.needle) ++ "%"))] := by
    rw [Query.pattern?_toList]
    split
    · rfl
    · rfl
  unfold Plan.slots Plan.orderClause Query.slots Query.planWith
  dsimp only
  rw [Plan.ordering_eq_intercalate, Query.conditions, List.map_append, List.map_append,
    List.map_map, List.map_map, List.map_map, ← htext]
  rfl

/--
**Every placeholder stands in the clause that its value is for.**

Take a query with a plan, and a sort option in whose order terms and shown column there
is no question mark. Then the values of the plan are those of the slots of the query:
the pattern if the text is not blank, the folder if there is one, the tags as they
stand in the query, the limit and the offset. There are as many question marks as
values. Cutting the text at them gives what the slots say, so that the piece before a
placeholder ends in the clause of its value; and what is written between the last
condition and the limit are the order terms with the row number at their end.
-/
theorem Query.placeholders_aligned {r : Registry} {dflt : String} {q : Query} {p : Plan}
    {o : SortOption} (hp : q.plan r dflt = .ok p) (ho : r.resolve q dflt = .ok o)
    (hterms : ∀ t ∈ o.terms, '?' ∉ t.orderBy.toList)
    (hcolumn : ∀ c, o.metaColumn = some c → '?' ∉ c.toList) :
    p.params = (q.slots o).map Slot.value
      ∧ p.sql.toList.count '?' = p.params.length
      ∧ cutAtMarks p.sql = Slot.pieces p.opening (q.slots o)
      ∧ ∀ (k : Nat) (slot : Slot), (q.slots o)[k]? = some slot →
          p.params[k]? = some slot.value
            ∧ ∃ lead, (cutAtMarks p.sql)[k]? = some (lead ++ slot.clause) := by
  obtain ⟨w, o', hw, ho', rfl⟩ := Query.plan_eq_ok.mp hp
  obtain rfl : o' = o := Except.ok.inj (ho'.symm.trans ho)
  obtain ⟨_, _, _, rfl⟩ := Query.window_eq_ok.mp hw
  have hplain : ∀ s ∈ (q.planWith o' ⟨q.limit.toNat, q.offset⟩).slots, s.Plain :=
    Plan.plain_of_mem_slots hterms
  have hopening : '?' ∉ (q.planWith o' ⟨q.limit.toNat, q.offset⟩).opening.toList :=
    Plan.markless_opening hcolumn
  rw [Query.slots_planWith] at hplain
  rw [Plan.params_eq_values, Plan.sql_eq_write, Query.slots_planWith,
    Slot.cutAtMarks_write hopening hplain]
  refine ⟨rfl, ?_, rfl, fun k slot hk => ⟨?_, Slot.getElem?_pieces _ hk⟩⟩
  · rw [Slot.count_write hopening hplain, List.length_map]
  · rw [List.getElem?_map, hk, Option.map_some]

/-- An option with a term and a column from outside. -/
def foreignOption : SortOption where
  name := "by-folder"
  metaName := "place"
  terms := [.custom "folder ASC" (some "folder"), .column .views .descending]

/-- A query with every kind of condition, and with question marks in its values. -/
def markedQuery : Query where
  text := " 50%? "
  tags := ["?", "prod", "?"]
  folder := some "ops?"
  sort := some "by-folder"
  limit := 10
  page := 3

/-- Question marks in values do not count; the fifth value is the last tag, the sixth the limit. -/
theorem Query.placeholders_aligned_of_marks :
    ∃ p, markedQuery.plan (Registry.empty.register foreignOption) "none" = .ok p
      ∧ p.params = [.text "%50\\%?%", .text "ops?", .text "?", .text "prod", .text "?",
          .integer 10, .integer 20]
      ∧ p.sql.toList.count '?' = 7
      ∧ (cutAtMarks p.sql)[5]? = some
          ") ORDER BY folder ASC, views DESC, d.id ASC LIMIT " := by
  have hp : markedQuery.plan (Registry.empty.register foreignOption) "none"
      = .ok (markedQuery.planWith foreignOption ⟨10, 20⟩) := rfl
  have ho : (Registry.empty.register foreignOption).resolve markedQuery "none"
      = .ok foreignOption := rfl
  obtain ⟨hparams, hcount, hpieces, _⟩ :=
    Query.placeholders_aligned hp ho (by decide) (by decide)
  have hvalues : (markedQuery.planWith foreignOption ⟨10, 20⟩).params
      = [.text "%50\\%?%", .text "ops?", .text "?", .text "prod", .text "?",
          .integer 10, .integer 20] := by
    rw [hparams]
    decide
  refine ⟨_, hp, hvalues, by rw [hcount, hvalues]; rfl, ?_⟩
  rw [hpieces]
  rfl

end DashIndex
