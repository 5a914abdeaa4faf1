import DashIndex.Files.Path
import Mathlib.Data.List.DropRight

/-!
# The segments of a path and of the directory above it

The directory above a path is written anew, from the segments up to the last that
names something. Split again it has the segments it was written from, since none of
them has a slash in it. So apart from segments that name nothing, a path has the
segments of the directory above it and one more, and both start at the same place.
-/

namespace DashIndex.Path

/-! ## Splitting -/

theorem splitFrom_ne_nil (segment cs : List Char) : splitFrom segment cs ≠ [] := by
  fun_induction splitFrom segment cs with
  | case1 => exact List.cons_ne_nil _ _
  | case2 => exact List.cons_ne_nil _ _
  | case3 _ _ _ _ ih => exact ih

theorem segments_ne_nil (path : String) : segments path ≠ [] := by
  unfold segments
  split
  · exact splitFrom_ne_nil _ _
  · exact splitFrom_ne_nil _ _

/-- No segment has a slash in it. -/
def Slashless (s : String) : Prop := '/' ∉ s.toList

theorem slashless_of_mem_splitFrom {segment cs : List Char} (h : '/' ∉ segment) :
    ∀ s ∈ splitFrom segment cs, Slashless s := by
  have hlast : ∀ segment : List Char, '/' ∉ segment → Slashless (String.ofList segment.reverse) := by
    intro segment h
    rw [Slashless, String.toList_ofList, List.mem_reverse]
    exact h
  fun_induction splitFrom segment cs with
  | case1 segment =>
      intro s hs
      rw [List.mem_singleton.mp hs]
      exact hlast segment h
  | case2 segment cs ih =>
      intro s hs
      rcases List.mem_cons.mp hs with rfl | hs
      · exact hlast segment h
      · exact ih List.not_mem_nil s hs
  | case3 segment c cs hc ih =>
      refine ih fun hmem => ?_
      rcases List.mem_cons.mp hmem with heq | hmem
      · exact hc heq.symm
      · exact h hmem

theorem slashless_of_mem_segments {path s : String} (h : s ∈ segments path) : Slashless s := by
  unfold segments at h
  split at h
  · exact slashless_of_mem_splitFrom List.not_mem_nil s h
  · exact slashless_of_mem_splitFrom List.not_mem_nil s h

/-- Up to the next slash characters are read into the segment. -/
theorem splitFrom_append {seg cs : List Char} (h : '/' ∉ cs) (rest : List Char) :
    splitFrom seg (cs ++ rest) = splitFrom (cs.reverse ++ seg) rest := by
  induction cs generalizing seg with
  | nil => rfl
  | cons c cs ih =>
      have hc : c ≠ '/' := fun heq => List.ne_of_not_mem_cons h heq.symm
      rw [List.cons_append, splitFrom, ih (List.not_mem_of_not_mem_cons h), List.reverse_cons,
        List.append_assoc]
      · rfl
      · exact hc

/-- Segments that are put together with slashes come apart again. -/
theorem splitFrom_intercalate {s : String} {ss : List String} (h : ∀ t ∈ s :: ss, Slashless t) :
    splitFrom [] ("/".intercalate (s :: ss)).toList = s :: ss := by
  have hread : ∀ t : String, (t.toList.reverse ++ []).reverse = t.toList := by
    intro t
    rw [List.append_nil, List.reverse_reverse]
  induction ss generalizing s with
  | nil =>
      have htext : ("/".intercalate [s]).toList = s.toList ++ [] := by
        rw [String.intercalate_singleton, List.append_nil]
      rw [htext, splitFrom_append (h s List.mem_cons_self), splitFrom, hread, String.ofList_toList]
  | cons t ss ih =>
      have htext : ("/".intercalate (s :: t :: ss)).toList
          = s.toList ++ '/' :: ("/".intercalate (t :: ss)).toList := by
        rw [String.intercalate_cons_cons, String.toList_append, String.toList_append,
          List.append_assoc]
        rfl
      rw [htext, splitFrom_append (h s List.mem_cons_self), splitFrom, hread,
        String.ofList_toList, ih fun u hu => h u (List.mem_cons_of_mem _ hu)]

/-- A path that starts at no root has no empty first segment, if it has two. -/
theorem head_segments_ne_empty {path s : String} (hrel : isAbsolute path = false) (hne : path ≠ "")
    (h : (segments path).head? = some s) : s ≠ "" := by
  have hseg : ∀ (seg cs : List Char), seg ≠ [] → ∀ t, (splitFrom seg cs).head? = some t →
      t ≠ "" := by
    intro seg cs
    have hreverse : ∀ seg : List Char, seg ≠ [] → String.ofList seg.reverse ≠ "" := by
      intro seg hseg hempty
      have hnil : seg.reverse = [] := by
        rw [← String.toList_ofList (l := seg.reverse), hempty]
        rfl
      exact hseg (List.reverse_eq_nil_iff.mp hnil)
    fun_induction splitFrom seg cs with
    | case1 seg => exact fun hne t ht => Option.some.inj ht ▸ hreverse seg hne
    | case2 seg cs _ => exact fun hne t ht => Option.some.inj ht ▸ hreverse seg hne
    | case3 seg c cs _ ih => exact fun _ => ih (List.cons_ne_nil _ _)
  cases hlist : path.toList with
  | nil => exact absurd (String.toList_eq_nil_iff.mp hlist) hne
  | cons c cs =>
      have hc : c ≠ '/' := by
        intro heq
        rw [isAbsolute, hlist, heq] at hrel
        exact absurd hrel (by simp)
      have hsplit : segments path = splitFrom [c] cs := by
        unfold segments
        rw [hlist]
        split
        · rename_i cs' heq
          exact absurd (List.cons.inj heq).1 hc
        · rw [splitFrom]
          exact hc
      rw [hsplit] at h
      exact hseg [c] cs (List.cons_ne_nil _ _) s h

/-! ## The directory above a path -/

/-- The segments that name something. -/
def named (ss : List String) : List String := ss.filter fun s => !isIdle s

theorem named_append (ss ss' : List String) : named (ss ++ ss') = named ss ++ named ss' :=
  List.filter_append _ _

theorem named_rdropWhile (ss : List String) : named (ss.rdropWhile isIdle) = named ss := by
  induction ss using List.reverseRecOn with
  | nil => rfl
  | append_singleton ss s ih =>
      rw [List.rdropWhile_concat]
      by_cases h : isIdle s = true
      · have hs : named [s] = [] := List.filter_cons_of_neg (by simp [h])
        rw [if_pos h, ih, named_append, hs, List.append_nil]
      · rw [if_neg h]

/-- Either what names nothing is dropped at the end, or all of it but a `.` at the start. -/
theorem dropIdle_cases (absolute : Bool) (ss : List String) :
    dropIdle absolute ss = ss.rdropWhile isIdle
      ∨ (ss.rdropWhile isIdle = [] ∧ dropIdle absolute ss = ["."]) := by
  have hdrop : (ss.reverse.dropWhile isIdle).reverse = ss.rdropWhile isIdle := rfl
  unfold dropIdle
  rw [hdrop]
  split
  · rename_i hnil
    cases absolute with
    | true => exact Or.inl hnil.symm
    | false => exact Or.inr ⟨hnil, rfl⟩
  · exact Or.inl rfl

theorem named_dropIdle (absolute : Bool) (ss : List String) :
    named (dropIdle absolute ss) = named ss := by
  rcases dropIdle_cases absolute ss with h | ⟨hnil, h⟩
  · rw [h, named_rdropWhile]
  · rw [h, ← named_rdropWhile ss, hnil]
    rfl

theorem dropIdle_isPrefix (absolute : Bool) (ss : List String) :
    dropIdle absolute ss = ["."] ∨ dropIdle absolute ss <+: ss := by
  rcases dropIdle_cases absolute ss with h | ⟨_, h⟩
  · exact Or.inr (h ▸ List.rdropWhile_prefix isIdle ss)
  · exact Or.inl h

theorem slashless_dropIdle (absolute : Bool) {ss : List String} (hss : ∀ s ∈ ss, Slashless s) :
    ∀ s ∈ dropIdle absolute ss, Slashless s := by
  intro s hs
  rcases dropIdle_isPrefix absolute ss with h | h
  · rw [h, List.mem_singleton] at hs
    rw [hs]
    exact (by decide : '/' ∉ ".".toList)
  · exact hss s (h.subset hs)

theorem head_dropIdle_ne_empty (absolute : Bool) {ss : List String}
    (hss : ∀ s, ss.head? = some s → s ≠ "") :
    ∀ s, (dropIdle absolute ss).head? = some s → s ≠ "" := by
  intro s hs
  rcases dropIdle_isPrefix absolute ss with h | ⟨rest, h⟩
  · rw [h] at hs
    rw [← Option.some.inj hs]
    decide
  · refine hss s ?_
    rw [← h, List.head?_append, hs]
    rfl

/-- The root does not matter to what is named. -/
theorem named_segments (path : String) :
    named (segments path) = named (splitFrom [] path.toList) := by
  unfold segments
  split
  · rename_i cs h
    rw [h, splitFrom]
    rfl
  · rfl

/-- The path that is written of segments. -/
def written (absolute : Bool) (ss : List String) : String :=
  (if absolute then "/" else "") ++ "/".intercalate ss

theorem named_segments_written (absolute : Bool) {ss : List String}
    (h : ∀ s ∈ ss, Slashless s) : named (segments (written absolute ss)) = named ss := by
  have hrel : named (splitFrom [] ("/".intercalate ss).toList) = named ss := by
    cases ss with
    | nil => rfl
    | cons s ss => rw [splitFrom_intercalate h]
  rw [named_segments, written, String.toList_append]
  cases absolute with
  | true => exact hrel
  | false => exact hrel

theorem isAbsolute_written (absolute : Bool) {ss : List String} (h : ∀ s ∈ ss, Slashless s)
    (hhead : absolute = false → ∀ s, ss.head? = some s → s ≠ "") :
    isAbsolute (written absolute ss) = absolute := by
  rw [isAbsolute, written, String.toList_append]
  cases absolute with
  | true => rfl
  | false =>
      cases ss with
      | nil => rfl
      | cons s ss =>
          have hs : Slashless s := h s List.mem_cons_self
          have hprefix : ∃ rest, ("/".intercalate (s :: ss)).toList = s.toList ++ rest := by
            cases ss with
            | nil => exact ⟨[], by rw [String.intercalate_singleton, List.append_nil]⟩
            | cons t ss =>
                refine ⟨"/".toList ++ ("/".intercalate (t :: ss)).toList, ?_⟩
                rw [String.intercalate_cons_cons, String.toList_append, String.toList_append,
                  List.append_assoc]
          obtain ⟨rest, hrest⟩ := hprefix
          rw [hrest]
          cases hlist : s.toList with
          | nil => exact absurd (String.toList_eq_nil_iff.mp hlist) (hhead rfl s rfl)
          | cons c cs =>
              rw [Slashless, hlist] at hs
              have hc : c ≠ '/' := fun heq => List.ne_of_not_mem_cons hs heq.symm
              simpa using hc

/-- **A path names what the directory above it names and one thing more.** -/
theorem parent?_cases (path : String) :
    named (segments path) = []
      ∨ ∃ directory last, parent? path = some directory
          ∧ isAbsolute directory = isAbsolute path
          ∧ named (segments path) = named (segments directory) ++ [last] := by
  have hsame := named_rdropWhile (segments path)
  rcases List.eq_nil_or_concat ((segments path).rdropWhile isIdle) with hnil | ⟨ss, last, hss⟩
  · left
    rw [← hsame, hnil]
    rfl
  · right
    rw [List.concat_eq_append] at hss
    have hprefix : ss ++ [last] <+: segments path := hss ▸ List.rdropWhile_prefix isIdle _
    have hlast : isIdle last = false := by
      have hnot := List.rdropWhile_last_not isIdle (segments path) (by rw [hss]; simp)
      simpa [hss] using hnot
    have hdrop : dropIdle (isAbsolute path) (segments path) = ss ++ [last] := by
      rcases dropIdle_cases (isAbsolute path) (segments path) with h | ⟨h, _⟩
      · rw [h, hss]
      · rw [hss] at h
        exact absurd h (by simp)
    have hparent : parent? path
        = some (written (isAbsolute path) (dropIdle (isAbsolute path) ss)) := by
      unfold parent?
      dsimp only
      rw [hdrop]
      split
      · rename_i h
        exact absurd h (by simp)
      · rw [List.dropLast_concat]
        rfl
    have hss' : ss <+: segments path := (List.prefix_append ss [last]).trans hprefix
    have hslashless : ∀ s ∈ dropIdle (isAbsolute path) ss, Slashless s :=
      slashless_dropIdle _ fun s hs => slashless_of_mem_segments (hss'.subset hs)
    have hhead : isAbsolute path = false → ∀ s, (dropIdle (isAbsolute path) ss).head? = some s →
        s ≠ "" := by
      intro hrel
      have hempty : (segments "").rdropWhile isIdle = [] := by decide
      have hne : path ≠ "" := by
        intro h
        rw [h, hempty] at hss
        exact absurd hss (by simp)
      refine head_dropIdle_ne_empty _ fun s hs => head_segments_ne_empty hrel hne ?_
      obtain ⟨rest, hrest⟩ := hss'
      rw [← hrest, List.head?_append, hs]
      rfl
    refine ⟨_, last, hparent, isAbsolute_written _ hslashless hhead, ?_⟩
    rw [named_segments_written _ hslashless, named_dropIdle, ← hsame, hss, named_append]
    congr 1
    exact List.filter_cons_of_pos (by simp [hlast])

end DashIndex.Path
