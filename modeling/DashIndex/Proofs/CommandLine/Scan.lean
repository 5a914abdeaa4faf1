import DashIndex.CommandLine.Parser
import DashIndex.Proofs.Text.Integer
import Mathlib.Data.List.TakeWhile

/-!
# What scanning does with an option

An option that stands in one argument, with its value after an equals sign, is
settled at once. So a row of such arguments never leaves anything pending, and what
has been taken after it is what was taken before it and the options of the row, in
their order. Two things can go wrong on the way, a value that is not of its kind and an
option that may stand once and stands twice; both depend on the options alone and not
on the arguments around them.

The second half of the file goes the other way. Whatever the arguments are, a path
that was taken is not empty: it was checked when it was taken, and what is pending has
not been taken yet. `Scan.Sound` says so, and every step keeps it.
-/

namespace DashIndex.CommandLine

/-- An option in one argument. -/
inductive Written where
  /-- a name alone -/
  | flag (name : String)
  /-- a name with a value after an equals sign -/
  | valued (name value : String)
  deriving DecidableEq, Repr

namespace Written

def name : Written → String
  | .flag name => name
  | .valued name _ => name

/-- The value; a flag counts as an empty one. -/
def value : Written → String
  | .flag _ => ""
  | .valued _ value => value

/-- The argument. -/
def text : Written → String
  | .flag name => "--" ++ name
  | .valued name value => "--" ++ name ++ "=" ++ value

/-- What a scan keeps of the option. -/
def taken (w : Written) : String × String := (w.name, w.value)

/-- A grammar has the option, and the value is of the kind that it asks for. -/
inductive Fits (g : Grammar) : Written → Prop where
  | flag {n : String} : g.find? n = some ⟨n, .nothing⟩ → Fits g (.flag n)
  | once {n v : String} {kind : ValueKind} :
      g.find? n = some ⟨n, .one kind⟩ → kind.check v = .ok () → Fits g (.valued n v)
  | repeated {n v : String} {kind : ValueKind} :
      g.find? n = some ⟨n, .many kind⟩ → kind.check v = .ok () → Fits g (.valued n v)

end Written

/-- The values of an option in a row, in their order. -/
def valuesIn (ws : List Written) (n : String) : List String :=
  (ws.filter (·.name == n)).map Written.value

theorem valuesIn_append (ws ws' : List Written) (n : String) :
    valuesIn (ws ++ ws') n = valuesIn ws n ++ valuesIn ws' n := by
  rw [valuesIn, List.filter_append, List.map_append]; rfl

theorem valuesIn_perm {ws ws' : List Written} (h : ws.Perm ws') (n : String) :
    (valuesIn ws n).Perm (valuesIn ws' n) :=
  (h.filter _).map _

/-- A single value is the same in whatever order the options stand. -/
theorem valuesIn_eq_of_perm {ws ws' : List Written} (h : ws.Perm ws') {n : String}
    (hone : (valuesIn ws' n).length ≤ 1) : valuesIn ws n = valuesIn ws' n := by
  have hperm := valuesIn_perm h n
  cases hv : valuesIn ws' n with
  | nil =>
      rw [hv] at hperm
      exact hperm.eq_nil
  | cons v rest =>
      rw [hv, List.length_cons] at hone
      have hrest : rest = [] := List.eq_nil_of_length_eq_zero (by omega)
      rw [hv, hrest] at hperm
      rw [hrest]
      exact List.perm_singleton.mp hperm

theorem valuesIn_eq_nil {ws : List Written} {n : String} :
    valuesIn ws n = [] ↔ ∀ w ∈ ws, w.name ≠ n := by
  simp [valuesIn, List.filter_eq_nil_iff]

/-! ## What a scan finds -/

namespace Scan

theorem value?_eq_head? (s : Scan) (n : String) : s.value? n = (s.values n).head? := by
  rw [value?, Scan.values, List.head?_map, List.head?_filter]

theorem has_eq (s : Scan) (n : String) : s.has n = !(s.values n).isEmpty := by
  rw [has, Scan.values, List.isEmpty_map, Bool.eq_iff_iff]
  simp [List.filter_eq_nil_iff]

theorem values_eq_valuesIn {s : Scan} {ws : List Written} (h : s.given = ws.map Written.taken)
    (n : String) : s.values n = valuesIn ws n := by
  rw [Scan.values, h, List.filter_map, List.map_map]
  rfl

theorem has_eq_false {s : Scan} {ws : List Written} (h : s.given = ws.map Written.taken)
    {n : String} (hn : valuesIn ws n = []) : s.has n = false := by
  rw [has_eq, values_eq_valuesIn h, hn]
  rfl

end Scan

/-! ## One option -/

/-- The names of a grammar can be told from what stands around them in an argument. -/
def Grammar.Plain (g : Grammar) : Prop :=
  ∀ spec ∈ g.options, spec.name ≠ "" ∧ '=' ∉ spec.name.toList

/-- Whether an option may stand more than once. -/
def Grammar.repeats (g : Grammar) (n : String) : Bool :=
  match g.find? n with
  | some ⟨_, .many _⟩ => true
  | _ => false

theorem Grammar.Plain.of_find? {g : Grammar} (hg : g.Plain) {n : String} {spec : OptionSpec}
    (h : g.find? n = some spec) : n ≠ "" ∧ '=' ∉ n.toList := by
  have hname : spec.name = n := by simpa using List.find?_some h
  have hspec := hg spec (List.mem_of_find?_eq_some h)
  rw [hname] at hspec
  exact hspec

theorem shape_flag {n : String} (hne : n ≠ "") (heq : '=' ∉ n.toList) :
    Shape.of ("--" ++ n) = .long n none := by
  have hlist : ("--" ++ n).toList = '-' :: '-' :: n.toList := by
    rw [String.toList_append]; rfl
  have hn : n.toList ≠ [] := fun h => hne (String.toList_eq_nil_iff.mp h)
  have hdrop : n.toList.dropWhile (· != '=') = [] := by
    refine List.dropWhile_eq_nil_iff.mpr fun c hc => ?_
    exact bne_iff_ne.mpr fun h => heq (h ▸ hc)
  rw [Shape.of, hlist]
  dsimp only
  rw [if_pos rfl, Shape.ofDashed, if_pos rfl, if_neg hn, Shape.ofLong, hdrop]
  dsimp only
  rw [String.ofList_toList]

theorem shape_valued {n v : String} (heq : '=' ∉ n.toList) :
    Shape.of ("--" ++ n ++ "=" ++ v) = .long n (some v) := by
  have hlist : ("--" ++ n ++ "=" ++ v).toList = '-' :: '-' :: (n.toList ++ '=' :: v.toList) := by
    rw [String.toList_append, String.toList_append, String.toList_append, List.append_assoc,
      List.append_assoc]
    rfl
  have hbefore : ∀ c ∈ n.toList, (c != '=') = true :=
    fun c hc => bne_iff_ne.mpr fun h => heq (h ▸ hc)
  have hdrop : (n.toList ++ '=' :: v.toList).dropWhile (· != '=') = '=' :: v.toList := by
    rw [List.dropWhile_append_of_pos hbefore]
    rfl
  have htake : (n.toList ++ '=' :: v.toList).takeWhile (· != '=') = n.toList := by
    rw [List.takeWhile_append_of_pos hbefore]
    exact List.append_nil _
  rw [Shape.of, hlist]
  dsimp only
  rw [if_pos rfl, Shape.ofDashed, if_pos rfl, if_neg (by simp), Shape.ofLong, hdrop, htake]
  dsimp only
  rw [String.ofList_toList, String.ofList_toList]

/-- A scan after a row of options, with nothing pending. -/
def Scan.after (ws : List Written) : Scan := { given := ws.map Written.taken }

theorem Scan.long_flag {g : Grammar} {n : String} (h : g.find? n = some ⟨n, .nothing⟩) (s : Scan) :
    s.long g n none = s.settleAccept ⟨n, .nothing⟩ "" := by
  unfold Scan.long
  rw [h]

theorem Scan.long_valued {g : Grammar} {n : String} {spec : OptionSpec}
    (h : g.find? n = some spec) (htakes : spec.takes ≠ .nothing) (s : Scan) (v : String) :
    s.long g n (some v) = s.settleAccept spec v := by
  obtain ⟨m, takes⟩ := spec
  unfold Scan.long
  rw [h]
  cases takes with
  | nothing => exact absurd rfl htakes
  | one kind => rfl
  | many kind => rfl

/-- **An option in one argument is taken at once.** -/
theorem Scan.step_written {g : Grammar} (hg : g.Plain) {ws : List Written} {w : Written}
    (hfit : w.Fits g) (hfree : g.repeats w.name = false → valuesIn ws w.name = [])
    (word : Scan → String → Except UsageError Scan) :
    (Scan.after ws).step g word w.text = .ok (Scan.after (ws ++ [w])) := by
  have hgiven : (Scan.after ws).given = ws.map Written.taken := rfl
  have hsettle : (Scan.after ws).settle = .ok (Scan.after ws) := rfl
  have htaken : Scan.after (ws ++ [w])
      = { Scan.after ws with given := (Scan.after ws).given ++ [w.taken] } := by
    rw [Scan.after, List.map_append]; rfl
  rw [htaken, Scan.step, if_neg (show ¬ (Scan.after ws).escaped = true from Bool.false_ne_true)]
  cases hfit with
  | @flag n hfind =>
      have hplain := hg.of_find? hfind
      have hnew : (Scan.after ws).has n = false := by
        refine Scan.has_eq_false hgiven (hfree ?_)
        rw [Grammar.repeats, Written.name, hfind]
      rw [Written.text, shape_flag hplain.1 hplain.2]
      dsimp only
      rw [Scan.long_flag hfind, Scan.settleAccept, hsettle]
      dsimp only
      rw [Scan.accept, hnew]
      rfl
  | @once n v kind hfind hcheck =>
      have hplain := hg.of_find? hfind
      have hnew : (Scan.after ws).has n = false := by
        refine Scan.has_eq_false hgiven (hfree ?_)
        rw [Grammar.repeats, Written.name, hfind]
      rw [Written.text, shape_valued hplain.2]
      dsimp only
      rw [Scan.long_valued hfind (by simp), Scan.settleAccept, hsettle]
      dsimp only
      rw [Scan.accept]
      dsimp only
      rw [hnew, hcheck]
      rfl
  | @repeated n v kind hfind hcheck =>
      have hplain := hg.of_find? hfind
      rw [Written.text, shape_valued hplain.2]
      dsimp only
      rw [Scan.long_valued hfind (by simp), Scan.settleAccept, hsettle]
      dsimp only
      rw [Scan.accept]
      dsimp only
      rw [hcheck]
      rfl

/-! ## A row of options -/

/-- In a row every option fits, and one that may stand once stands once. -/
structure FitsRow (g : Grammar) (ws : List Written) : Prop where
  fits : ∀ w ∈ ws, w.Fits g
  once : ∀ n, g.repeats n = false → (valuesIn ws n).length ≤ 1

theorem FitsRow.of_perm {g : Grammar} {ws ws' : List Written} (h : FitsRow g ws)
    (hperm : ws'.Perm ws) : FitsRow g ws' where
  fits := fun w hw => h.fits w (hperm.mem_iff.mp hw)
  once := by
    intro n hsingle
    rw [(valuesIn_perm hperm n).length_eq]
    exact h.once n hsingle

theorem FitsRow.of_append {g : Grammar} {ws ws' : List Written} (h : FitsRow g (ws ++ ws')) :
    FitsRow g ws ∧ FitsRow g ws' := by
  have hlength : ∀ n, g.repeats n = false →
      (valuesIn ws n).length + (valuesIn ws' n).length ≤ 1 := by
    intro n hsingle
    have hle := h.once n hsingle
    rw [valuesIn_append, List.length_append] at hle
    exact hle
  refine ⟨⟨fun w hw => h.fits w (List.mem_append_left _ hw), fun n hn => ?_⟩,
    ⟨fun w hw => h.fits w (List.mem_append_right _ hw), fun n hn => ?_⟩⟩
  · have := hlength n hn
    omega
  · have := hlength n hn
    omega

/-- The place of an option that may stand once is free when its turn comes. -/
theorem FitsRow.free {g : Grammar} {ws : List Written} {w : Written}
    (h : FitsRow g (ws ++ [w])) (hsingle : g.repeats w.name = false) :
    valuesIn ws w.name = [] := by
  have hle := h.once w.name hsingle
  have hself : valuesIn [w] w.name = [w.value] := by simp [valuesIn]
  rw [valuesIn_append, hself, List.length_append, List.length_singleton] at hle
  exact List.eq_nil_of_length_eq_zero (by omega)

/-- A row is followed, one option after the other, by a function that takes each at once. -/
theorem FitsRow.induction {g : Grammar} {P : List Written → List Written → Prop}
    (hnil : ∀ done, P done [])
    (hcons : ∀ done w ws, w.Fits g → (g.repeats w.name = false → valuesIn done w.name = []) →
      P (done ++ [w]) ws → P done (w :: ws)) :
    ∀ (ws done : List Written), FitsRow g (done ++ ws) → P done ws
  | [], done, _ => hnil done
  | w :: ws, done, h => by
      have hrow : FitsRow g ((done ++ [w]) ++ ws) := by
        rw [List.append_assoc]; exact h
      refine hcons done w ws (h.fits w (by simp)) ?_ (FitsRow.induction hnil hcons ws _ hrow)
      exact fun hsingle => hrow.of_append.1.free hsingle

/-- **A row of options is taken as it stands.** -/
theorem Scan.all_written {g : Grammar} (hg : g.Plain) {done ws : List Written}
    (h : FitsRow g (done ++ ws)) (rest : List String) :
    Scan.all g (Scan.after done) (ws.map Written.text ++ rest)
      = Scan.all g (Scan.after (done ++ ws)) rest := by
  refine FitsRow.induction (g := g) (P := fun done ws =>
    Scan.all g (Scan.after done) (ws.map Written.text ++ rest)
      = Scan.all g (Scan.after (done ++ ws)) rest) ?_ ?_ ws done h
  · intro done
    rw [List.append_nil]; rfl
  · intro done w ws hfit hfree ih
    rw [List.map_cons, List.cons_append, Scan.all, Scan.step_written hg hfit hfree]
    dsimp only
    rw [ih, List.append_assoc]; rfl

/-! ## Paths that were taken -/

/-- The options whose value is a path. -/
def IsPlace (n : String) : Prop := n = "config" ∨ n = "db"

/-- A grammar takes the value of a place for a path. -/
def Grammar.TakesPaths (g : Grammar) : Prop :=
  ∀ spec ∈ g.options, IsPlace spec.name → spec.takes = .one .path

instance (n : String) : Decidable (IsPlace n) := inferInstanceAs (Decidable (_ ∨ _))

instance (g : Grammar) : Decidable g.TakesPaths :=
  inferInstanceAs (Decidable (∀ spec ∈ g.options, IsPlace spec.name → spec.takes = .one .path))

theorem topGrammar_takesPaths : topGrammar.TakesPaths := by decide

theorem grammar_takesPaths (sub : Subcommand) : sub.grammar.TakesPaths := by
  cases sub <;> decide

theorem ne_empty_of_check {v : String} (h : ValueKind.path.check v = .ok ()) : v ≠ "" := by
  intro hv
  rw [ValueKind.check, if_pos hv] at h
  exact absurd h (by simp)

namespace Scan

variable {g : Grammar} {s s' : Scan}

/-- What was taken as a path is not empty, and what is pending as one will be checked. -/
structure Sound (s : Scan) : Prop where
  given : ∀ p ∈ s.given, IsPlace p.1 → p.2 ≠ ""
  pending : ∀ spec v, s.pending = some (.option spec v) → IsPlace spec.name →
    spec.takes = .one .path

theorem sound_empty : Sound {} where
  given := by intro p hp; exact absurd hp List.not_mem_nil
  pending := by intro spec v h; exact absurd h (by simp)

theorem sound_taken (h : s.Sound) {p : String × String} (hp : IsPlace p.1 → p.2 ≠ "") :
    Sound { s with given := s.given ++ [p] } where
  given := by
    intro q hq
    rcases List.mem_append.mp hq with hq | hq
    · exact h.given q hq
    · rw [List.mem_singleton] at hq
      rw [hq]
      exact hp
  pending := h.pending

theorem sound_accept (h : s.Sound) {spec : OptionSpec}
    (hspec : IsPlace spec.name → spec.takes = .one .path) {v : String}
    (ha : s.accept spec v = .ok s') : s'.Sound := by
  rw [accept] at ha
  split at ha
  · rename_i htakes
    split at ha
    · exact absurd ha (by simp)
    · rw [← Except.ok.inj ha]
      refine sound_taken h fun hplace => absurd (hspec hplace) ?_
      rw [htakes]; simp
  · rename_i kind htakes
    split at ha
    · exact absurd ha (by simp)
    · split at ha
      · exact absurd ha (by simp)
      · rename_i hcheck
        rw [← Except.ok.inj ha]
        refine sound_taken h fun hplace => ?_
        have hkind : kind = .path := by
          have htwo := htakes.symm.trans (hspec hplace)
          exact Takes.one.inj htwo
        rw [hkind] at hcheck
        exact ne_empty_of_check hcheck
  · rename_i kind htakes
    split at ha
    · exact absurd ha (by simp)
    · rw [← Except.ok.inj ha]
      refine sound_taken h fun hplace => absurd (hspec hplace) ?_
      rw [htakes]; simp

theorem sound_settle (h : s.Sound) (hs : s.settle = .ok s') : s'.Sound := by
  have hfree : Sound { s with pending := none } := ⟨h.given, by intro spec v hp; simp at hp⟩
  rw [settle] at hs
  split at hs
  · rw [← Except.ok.inj hs]; exact hfree
  · exact absurd hs (by simp)
  · rename_i spec value hpending
    exact sound_accept hfree (h.pending spec (some value) hpending) hs
  · split at hs
    · exact absurd hs (by simp)
    · rw [← Except.ok.inj hs]
      exact ⟨hfree.given, hfree.pending⟩

theorem sound_settleAccept (h : s.Sound) {spec : OptionSpec}
    (hspec : IsPlace spec.name → spec.takes = .one .path) {v : String}
    (ha : s.settleAccept spec v = .ok s') : s'.Sound := by
  rw [settleAccept] at ha
  split at ha
  · exact absurd ha (by simp)
  · rename_i s₁ hs₁
    exact sound_accept (sound_settle h hs₁) hspec ha

/-- Help and version are never an answer to what was taken. -/
theorem showing_ne_ok (s s' : Scan) (e : UsageError) : s.showing e ≠ .ok s' := by
  intro h
  rw [showing] at h
  split at h
  · exact absurd h (by simp)
  · exact absurd h (by simp)

theorem sound_long (hg : g.TakesPaths) (h : s.Sound) {n : String} {v : Option String}
    (hs : s.long g n v = .ok s') : s'.Sound := by
  have hspec : ∀ {spec : OptionSpec}, g.find? n = some spec →
      IsPlace spec.name → spec.takes = .one .path :=
    fun hfind => hg _ (List.mem_of_find?_eq_some hfind)
  unfold long at hs
  split at hs
  · rename_i m hfind
    exact sound_settleAccept h (hspec hfind) hs
  · exact absurd hs (by simp)
  · rename_i spec value _ hfind
    exact sound_settleAccept h (hspec hfind) hs
  · rename_i spec _ hfind
    split at hs
    · exact absurd hs (by simp)
    · rename_i s₁ hs₁
      rw [← Except.ok.inj hs]
      refine ⟨(sound_settle h hs₁).given, ?_⟩
      intro spec' v' hp
      obtain ⟨hsame, _⟩ := Pending.option.inj (Option.some.inj hp)
      rw [← hsame]
      exact hspec hfind
  · split at hs
    · split at hs
      · exact absurd hs (by simp)
      · exact absurd hs (showing_ne_ok _ _ _)
    · exact absurd hs (by simp)

theorem short_ne_ok (s s' : Scan) (c : Char) : s.short g c ≠ .ok s' := by
  intro h
  rw [short] at h
  split at h
  · exact showing_ne_ok _ _ _ h
  · split at h
    · exact showing_ne_ok _ _ _ h
    · exact absurd h (by simp)

theorem sound_unnamed (h : s.Sound) {arg : String} (hs : s.unnamed g arg = .ok s') :
    s'.Sound := by
  rw [unnamed] at hs
  split at hs
  · exact absurd hs (by simp)
  · split at hs
    · exact absurd hs (by simp)
    · split at hs
      · exact absurd hs (by simp)
      · rename_i s₁ hs₁
        rw [← Except.ok.inj hs]
        refine ⟨(sound_settle h hs₁).given, ?_⟩
        intro spec v hp
        exact absurd (Option.some.inj hp) (by simp)

/-- **Preserved by every argument.** -/
theorem sound_step (hg : g.TakesPaths) {word : Scan → String → Except UsageError Scan}
    {arg : String} (hword : ∀ s', word s arg = .ok s' → s'.Sound) (h : s.Sound)
    (hs : s.step g word arg = .ok s') : s'.Sound := by
  rw [step] at hs
  split at hs
  · exact hword s' hs
  · split at hs
    · rw [← Except.ok.inj hs]
      exact ⟨h.given, h.pending⟩
    · exact sound_long hg h hs
    · exact absurd hs (short_ne_ok _ _ _)
    · split at hs
      · rename_i spec hp
        rw [← Except.ok.inj hs]
        refine ⟨h.given, ?_⟩
        intro spec' v' hp'
        obtain ⟨hsame, _⟩ := Pending.option.inj (Option.some.inj hp')
        rw [← hsame]
        exact h.pending spec none hp
      · exact hword s' hs

/-- **Preserved by all arguments of a command.** -/
theorem sound_all (hg : g.TakesPaths) {args : List String} (h : s.Sound)
    (hs : s.all g args = .ok s') : s'.Sound := by
  induction args generalizing s with
  | nil => exact sound_settle h hs
  | cons arg args ih =>
      rw [all] at hs
      split at hs
      · exact absurd hs (by simp)
      · rename_i s₁ hs₁
        exact ih (sound_step hg (fun s' hw => sound_unnamed h hw) h hs₁) hs

theorem Sound.value?_ne_empty (h : s.Sound) {n : String} (hn : IsPlace n) :
    s.value? n ≠ some "" := by
  intro hv
  rw [value?, Option.map_eq_some_iff] at hv
  obtain ⟨p, hp, hempty⟩ := hv
  have hname : p.1 = n := by simpa using List.find?_some hp
  exact h.given p (List.mem_of_find?_eq_some hp) (hname ▸ hn) hempty

end Scan

/-! ## Places that were accepted -/

/-- What an accepted command line consists of. -/
theorem ofArguments_eq_ok {top : Scan} {sub : Subcommand} {args : List String} {i : Invocation}
    (h : Invocation.ofArguments top sub args = .ok i) :
    ∃ s top', Scan.all sub.grammar {} args = .ok s ∧ top.settle = .ok top'
      ∧ Command.ofScan sub s = .ok i.command
      ∧ i.config = (s.value? "config").or (top'.value? "config")
      ∧ i.db = (s.value? "db").or (top'.value? "db") := by
  unfold Invocation.ofArguments at h
  split at h
  · exact absurd h (by simp)
  · split at h
    · exact absurd h (by simp)
    · rename_i s hs
      split at h
      · exact absurd h (by simp)
      · rename_i command hcommand
        split at h
        · exact absurd h (by simp)
        · rename_i top' htop
          refine ⟨s, top', hs, htop, ?_⟩
          rw [← Except.ok.inj h]
          exact ⟨hcommand, rfl, rfl⟩

/-- **An accepted command line names no empty path.** -/
theorem places_ne_empty {args : List String} {i : Invocation} (h : parse args = .ok i) :
    i.config ≠ some "" ∧ i.db ≠ some "" := by
  have hfrom : ∀ (args : List String) (s : Scan), s.Sound → parseFrom s args = .ok i →
      i.config ≠ some "" ∧ i.db ≠ some "" := by
    intro args
    induction args with
    | nil =>
        intro s _ hp
        rw [parseFrom] at hp
        split at hp
        · exact absurd hp (by simp)
        · split at hp
          · exact absurd hp (by simp)
          · exact absurd hp (by simp)
    | cons arg args ih =>
        intro s hs hp
        rw [parseFrom] at hp
        split at hp
        · rename_i sub _ _
          obtain ⟨c, top', hc, htop, _, hconfig, hdb⟩ := ofArguments_eq_ok hp
          have hc' := Scan.sound_all (grammar_takesPaths sub) Scan.sound_empty hc
          have htop' := Scan.sound_settle hs htop
          have hor : ∀ n, IsPlace n → (c.value? n).or (top'.value? n) ≠ some "" := by
            intro n hn hv
            rcases Option.or_eq_some_iff.mp hv with hv | ⟨_, hv⟩
            · exact hc'.value?_ne_empty hn hv
            · exact htop'.value?_ne_empty hn hv
          rw [hconfig, hdb]
          exact ⟨hor "config" (Or.inl rfl), hor "db" (Or.inr rfl)⟩
        · split at hp
          · exact absurd hp (by simp)
          · rename_i s₁ hs₁
            exact ih s₁ (Scan.sound_step topGrammar_takesPaths
              (fun _ hw => absurd hw (by simp)) hs hs₁) hp
  exact hfrom args {} Scan.sound_empty h

end DashIndex.CommandLine
