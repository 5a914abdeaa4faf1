import DashIndex.Json.Printer
import DashIndex.Json.Reader
import DashIndex.Proofs.Text.Integer

/-!
# A written value is read back

A reader takes a value off the front and leaves the rest. So what is proved of each
part of the syntax is that the reader takes exactly what the writer wrote, whatever
comes after it. Only a number needs to know about that: digits, a point or an exponent
would go on with it. In a written text a value is followed by a line break, a comma or
nothing, and none of these does.

The budget never runs out: every level, item and character that takes one from it has
written a character of its own.
-/

namespace DashIndex.Json

/-! ## Blanks -/

theorem skip_cons {c : Char} (h : isSpace c = false) (cs : List Char) :
    skip (c :: cs) = c :: cs :=
  List.dropWhile_cons_of_neg (by simp [h])

/-- A new line with its indentation is skipped as a whole. -/
theorem skip_line (depth : Nat) (cs : List Char) : skip (line depth ++ cs) = skip cs := by
  refine List.dropWhile_append_of_pos fun c hc => ?_
  rcases List.mem_cons.mp hc with rfl | hc
  · rfl
  · rw [(List.mem_replicate.mp hc).2]
    rfl

/-! ## Texts -/

theorem charOf?_toNat (c : Char) : charOf? c.toNat = some c := by
  unfold charOf?
  rw [dif_pos (show c.toNat.isValidChar from c.valid)]
  rfl

/-- A control character is read back from its two hexadecimal digits. -/
theorem hexQuad?_control : ∀ n < 32,
    hexQuad? '0' '0' (Nat.digitChar (n / 16)) (Nat.digitChar (n % 16)) = some n := by
  decide

/-- **One character, however it is escaped, costs one from the budget and is read back.** -/
theorem readText_escapeChar (budget : Nat) (acc : List Char) (c : Char) (rest : List Char) :
    readText (budget + 1) acc (escapeChar c ++ rest) = readText budget (c :: acc) rest := by
  unfold escapeChar
  -- seven characters are escaped by a letter
  iterate 7
    split
    · subst_vars
      rfl
  split
  · rename_i hcontrol
    have hread : readEscape ('u' :: '0' :: '0' :: Nat.digitChar (c.toNat / 16)
        :: Nat.digitChar (c.toNat % 16) :: rest) = some (c, rest) := by
      rw [readEscape, if_pos rfl, readCodePoint, hexQuad?_control c.toNat hcontrol]
      dsimp only
      rw [charOf?_toNat]
    rw [List.cons_append, readText, if_neg (by decide), if_pos rfl]
    simp only [List.cons_append, List.nil_append]
    rw [hread]
  · rename_i hquote hbackslash _ _ _ _ _ hcontrol
    rw [List.singleton_append, readText, if_neg hquote, if_neg hbackslash, if_neg hcontrol]

theorem readText_escaped (budget : Nat) (acc cs rest : List Char) (h : cs.length < budget) :
    readText budget acc (cs.flatMap escapeChar ++ '"' :: rest) = some (acc.reverse ++ cs, rest) := by
  induction cs generalizing budget acc with
  | nil =>
      obtain ⟨budget, rfl⟩ := Nat.exists_eq_succ_of_ne_zero (Nat.ne_of_gt h)
      rw [List.flatMap_nil, List.nil_append, readText, if_pos rfl, List.append_nil]
  | cons c cs ih =>
      obtain ⟨budget, rfl⟩ := Nat.exists_eq_succ_of_ne_zero (Nat.ne_of_gt (Nat.zero_lt_of_lt h))
      rw [List.flatMap_cons, List.append_assoc, readText_escapeChar,
        ih budget (c :: acc) (Nat.lt_of_succ_lt_succ h), List.reverse_cons, List.append_assoc]
      rfl

theorem length_le_escaped (cs : List Char) : cs.length ≤ (cs.flatMap escapeChar).length := by
  induction cs with
  | nil => exact Nat.le_refl 0
  | cons c cs ih =>
      have hpos : 0 < (escapeChar c).length := by
        unfold escapeChar
        repeat' split
        all_goals exact Nat.zero_lt_succ _
      rw [List.flatMap_cons, List.length_append, List.length_cons]
      omega

/-- A text is read back after its opening quote. -/
theorem readText_textChars {budget : Nat} {s : String} (h : (textChars s).length ≤ budget + 1)
    (rest : List Char) :
    ∃ body, textChars s ++ rest = '"' :: body ∧ readText budget [] body = some (s.toList, rest) := by
  have hle := length_le_escaped s.toList
  rw [textChars, List.length_cons, List.length_append, List.length_singleton] at h
  refine ⟨s.toList.flatMap escapeChar ++ '"' :: rest, ?_, ?_⟩
  · rw [textChars, List.cons_append, List.append_assoc]
    rfl
  · rw [readText_escaped budget [] _ _ (by omega)]
    rfl

theorem readKey_keyChars {budget : Nat} {k : String} (h : (textChars k).length ≤ budget + 1)
    {c : Char} (hc : isSpace c = false) (rest : List Char) :
    readKey budget (keyChars k ++ c :: rest) = some (k, c :: rest) := by
  obtain ⟨body, htext, hread⟩ := readText_textChars h (':' :: ' ' :: c :: rest)
  have hkey : keyChars k ++ c :: rest = '"' :: body := by
    rw [← htext, keyChars, List.append_assoc]
    rfl
  have hcolon : skip (':' :: ' ' :: c :: rest) = ':' :: ' ' :: c :: rest := skip_cons (by decide) _
  have hblank : skip (' ' :: c :: rest) = c :: rest := skip_cons hc rest
  rw [hkey, readKey, after?, if_pos rfl, Option.bind_some, hread]
  dsimp only
  rw [hcolon, after?, if_pos rfl, Option.map_some, hblank, String.ofList_toList]

/-! ## Numbers -/

/-- What follows a number and is no part of it. -/
def EndsNumber (rest : List Char) : Prop :=
  ∀ c, rest.head? = some c → c.isDigit = false ∧ c ≠ '.' ∧ c ≠ 'e' ∧ c ≠ 'E'

theorem endsNumber_line (depth : Nat) (cs : List Char) : EndsNumber (line depth ++ cs) := by
  intro c hc
  obtain rfl := Option.some.inj hc
  decide

theorem endsNumber_comma (cs : List Char) : EndsNumber (',' :: cs) := by
  intro c hc
  obtain rfl := Option.some.inj hc
  decide

theorem toDigits_eq_cons (n : Nat) : ∃ d ds, Nat.toDigits 10 n = d :: ds ∧ d.isDigit = true := by
  cases h : Nat.toDigits 10 n with
  | nil => exact absurd h Nat.toDigits_ne_nil
  | cons d ds => exact ⟨d, ds, rfl, Text.isDigit_of_mem_toDigits d (h ▸ List.mem_cons_self)⟩

/-- The digits of a number are taken up to its end. -/
theorem takeWhile_digits (n : Nat) {rest : List Char}
    (h : ∀ c, rest.head? = some c → c.isDigit = false) :
    (Nat.toDigits 10 n ++ rest).takeWhile Char.isDigit = Nat.toDigits 10 n
      ∧ (Nat.toDigits 10 n ++ rest).dropWhile Char.isDigit = rest := by
  rw [List.takeWhile_append_of_pos Text.isDigit_of_mem_toDigits,
    List.dropWhile_append_of_pos Text.isDigit_of_mem_toDigits]
  cases rest with
  | nil => exact ⟨List.append_nil _, rfl⟩
  | cons c cs =>
      have hc : ¬ c.isDigit = true := by simp [h c rfl]
      rw [List.takeWhile_cons_of_neg hc, List.dropWhile_cons_of_neg hc, List.append_nil]
      exact ⟨rfl, rfl⟩

/-- Only the number zero is written with a zero first. -/
theorem eq_zero_of_head_toDigits {n : Nat} (h : (Nat.toDigits 10 n).head? = some '0') : n = 0 := by
  induction n using Nat.strongRecOn with
  | ind n ih =>
      by_cases hn : n < 10
      · rw [Nat.toDigits_of_lt_base hn] at h
        have hdigit : ∀ m < 10, Nat.digitChar m = '0' → m = 0 := by decide
        exact hdigit n hn (Option.some.inj h)
      · -- the first digit stays the first when the last one is taken off
        obtain ⟨d, ds, hds, _⟩ := toDigits_eq_cons (n / 10)
        rw [Nat.toDigits_of_base_le (by decide) (by omega), hds] at h
        have hzero := ih (n / 10) (by omega) (by rw [hds]; exact h)
        omega

theorem not_leading_zero (n : Nat) :
    ((Nat.toDigits 10 n).isEmpty
      || ((Nat.toDigits 10 n).head? = some '0' && Nat.toDigits 10 n != ['0'])) = false := by
  rw [Bool.or_eq_false_iff]
  refine ⟨by simp [Nat.toDigits_ne_nil], ?_⟩
  by_cases h : (Nat.toDigits 10 n).head? = some '0'
  · rw [eq_zero_of_head_toDigits h]
    rfl
  · simp [h]

theorem digitsValue_toDigits (n : Nat) : digitsValue (Nat.toDigits 10 n) = n :=
  Text.decimalFrom_toDigits n

theorem exponentDigits_toDigits (negative : Bool) (n : Nat) {rest : List Char}
    (h : EndsNumber rest) :
    exponentDigits negative (Nat.toDigits 10 n ++ rest)
      = some (some (if negative then -(n : Int) else n), rest) := by
  obtain ⟨htake, hdrop⟩ := takeWhile_digits n fun c hc => (h c hc).1
  unfold exponentDigits
  rw [htake, hdrop]
  dsimp only
  rw [digitsValue_toDigits, if_neg (by simp [Nat.toDigits_ne_nil])]

theorem readExponent_intChars (n : Int) {rest : List Char} (h : EndsNumber rest) :
    readExponent ('e' :: (intChars n ++ rest)) = some (some n, rest) := by
  unfold readExponent intChars
  dsimp only
  rw [if_pos (Or.inl rfl)]
  by_cases hn : n < 0
  · rw [if_pos hn, List.cons_append]
    dsimp only
    rw [if_pos rfl, exponentDigits_toDigits true _ h, if_pos rfl]
    congr 3
    omega
  · -- no sign is written, and the first digit is not taken for one
    rw [if_neg hn]
    have hread := exponentDigits_toDigits false n.natAbs h
    obtain ⟨d, ds, hds, hd⟩ := toDigits_eq_cons n.natAbs
    have hsign := Text.not_sign_of_isDigit hd
    rw [hds, List.cons_append] at hread ⊢
    dsimp only
    rw [if_neg hsign.2, if_neg hsign.1, hread, if_neg (by decide)]
    congr 3
    omega

theorem readFraction_of_ne {rest : List Char} (h : ∀ c, rest.head? = some c → c ≠ '.') :
    readFraction rest = some ([], rest) := by
  cases rest with
  | nil => rfl
  | cons c cs => rw [readFraction, if_neg (h c rfl)]

theorem readExponent_of_ends {rest : List Char} (h : EndsNumber rest) :
    readExponent rest = some (none, rest) := by
  cases rest with
  | nil => rfl
  | cons c cs =>
      obtain ⟨_, _, hlower, hupper⟩ := h c rfl
      unfold readExponent
      dsimp only
      rw [if_neg (by simp [hlower, hupper])]

/-- A number after its sign is what its parts make it. -/
theorem readUnsigned_toDigits (negative : Bool) (n : Nat) {rest rest' : List Char}
    {exponent : Option Int}
    (hend : ∀ c, rest.head? = some c → c.isDigit = false ∧ c ≠ '.')
    (hexponent : readExponent rest = some (exponent, rest')) :
    readUnsigned negative (Nat.toDigits 10 n ++ rest)
      = some (numberOf negative (Nat.toDigits 10 n) [] exponent, rest') := by
  obtain ⟨htake, hdrop⟩ := takeWhile_digits n fun c hc => (hend c hc).1
  unfold readUnsigned
  rw [htake, hdrop, readFraction_of_ne fun c hc => (hend c hc).2]
  dsimp only
  rw [if_neg (by rw [not_leading_zero]; decide), hexponent]

/-- A number is read after its sign, if it has one. -/
theorem readNumber_sign (negative : Bool) (n : Nat) (rest : List Char) :
    readNumber ((if negative then ['-'] else []) ++ Nat.toDigits 10 n ++ rest)
      = readUnsigned negative (Nat.toDigits 10 n ++ rest) := by
  cases negative with
  | true => rfl
  | false =>
      obtain ⟨d, ds, hds, hd⟩ := toDigits_eq_cons n
      rw [if_neg (by decide), List.nil_append, hds, List.cons_append, readNumber,
        if_neg (Text.not_sign_of_isDigit hd).2]

theorem readNumber_integer (n : Int) {rest : List Char} (h : EndsNumber rest) :
    readNumber (intChars n ++ rest) = some (.integer n, rest) := by
  have hend : ∀ c, rest.head? = some c → c.isDigit = false ∧ c ≠ '.' :=
    fun c hc => ⟨(h c hc).1, (h c hc).2.1⟩
  unfold intChars
  by_cases hn : n < 0
  · rw [if_pos hn]
    refine (readNumber_sign true n.natAbs rest).trans ?_
    rw [readUnsigned_toDigits true n.natAbs hend (readExponent_of_ends h)]
    unfold numberOf
    rw [List.append_nil, digitsValue_toDigits]
    dsimp only
    -- what is below zero is not read as a negative zero
    rw [if_pos rfl, if_neg (by omega)]
    congr 3
    omega
  · rw [if_neg hn]
    refine (readNumber_sign false n.natAbs rest).trans ?_
    rw [readUnsigned_toDigits false n.natAbs hend (readExponent_of_ends h)]
    unfold numberOf
    rw [List.append_nil, digitsValue_toDigits]
    dsimp only
    rw [if_neg (by decide)]
    congr 3
    omega

theorem readNumber_decimal (d : Decimal) {rest : List Char} (h : EndsNumber rest) :
    readNumber (decimalChars d ++ rest) = some (.decimal d, rest) := by
  have hexponent := readExponent_intChars d.exponent h
  have hend : ∀ c, ('e' :: (intChars d.exponent ++ rest)).head? = some c →
      c.isDigit = false ∧ c ≠ '.' := by
    intro c hc
    obtain rfl := Option.some.inj hc
    decide
  rw [decimalChars, List.append_assoc, List.cons_append, readNumber_sign,
    readUnsigned_toDigits d.negative d.digits hend hexponent]
  unfold numberOf
  rw [List.append_nil, digitsValue_toDigits]
  dsimp only
  rw [Option.getD_some, List.length_nil, Int.natCast_zero, Int.sub_zero]

/-- A character that a written number starts with. -/
def StartsNumber (c : Char) : Prop := c = '-' ∨ c.isDigit = true

theorem toDigits_startsNumber (n : Nat) : ∃ c cs, Nat.toDigits 10 n = c :: cs ∧ StartsNumber c := by
  obtain ⟨d, ds, hds, hd⟩ := toDigits_eq_cons n
  exact ⟨d, ds, hds, Or.inr hd⟩

theorem intChars_startsNumber (n : Int) : ∃ c cs, intChars n = c :: cs ∧ StartsNumber c := by
  unfold intChars
  split
  · exact ⟨'-', _, rfl, Or.inl rfl⟩
  · exact toDigits_startsNumber n.natAbs

theorem decimalChars_startsNumber (d : Decimal) :
    ∃ c cs, decimalChars d = c :: cs ∧ StartsNumber c := by
  unfold decimalChars
  split
  · exact ⟨'-', _, rfl, Or.inl rfl⟩
  · obtain ⟨c, cs, hcs, hc⟩ := toDigits_startsNumber d.digits
    exact ⟨c, _, by rw [hcs]; rfl, hc⟩

/-- Nothing that another kind of value starts with starts a number. -/
theorem StartsNumber.ne {c d : Char} (h : StartsNumber c) (hd : d.isDigit = false) (hminus : d ≠ '-') :
    c ≠ d := by
  rintro rfl
  rcases h with rfl | h
  · exact hminus rfl
  · exact absurd h (by simp [hd])

theorem readValue_startsNumber {c : Char} (h : StartsNumber c) (budget : Nat) (cs : List Char) :
    readValue (budget + 1) (c :: cs) = readNumber (c :: cs) := by
  rw [readValue, if_neg (h.ne (by decide) (by decide)), if_neg (h.ne (by decide) (by decide)),
    if_neg (h.ne (by decide) (by decide)), if_neg (h.ne (by decide) (by decide)),
    if_neg (h.ne (by decide) (by decide)), if_neg (h.ne (by decide) (by decide))]

/-! ## Values -/

/-- No value starts with a blank or with a closing bracket. -/
theorem chars_eq_cons (depth : Nat) (v : Json) :
    ∃ c cs, chars depth v = c :: cs ∧ isSpace c = false ∧ c ≠ ']' := by
  have hnumber {c : Char} (h : StartsNumber c) : isSpace c = false ∧ c ≠ ']' := by
    refine ⟨?_, h.ne (by decide) (by decide)⟩
    simp only [isSpace, Bool.or_eq_false_iff, decide_eq_false_iff_not]
    exact ⟨⟨⟨h.ne (by decide) (by decide), h.ne (by decide) (by decide)⟩,
      h.ne (by decide) (by decide)⟩, h.ne (by decide) (by decide)⟩
  cases v with
  | null => exact ⟨'n', _, by rw [chars], by decide, by decide⟩
  | bool b =>
      cases b with
      | true => exact ⟨'t', _, by rw [chars], by decide, by decide⟩
      | false => exact ⟨'f', _, by rw [chars], by decide, by decide⟩
  | integer n =>
      obtain ⟨c, cs, hcs, hc⟩ := intChars_startsNumber n
      exact ⟨c, cs, by rw [chars, hcs], hnumber hc⟩
  | decimal d =>
      obtain ⟨c, cs, hcs, hc⟩ := decimalChars_startsNumber d
      exact ⟨c, cs, by rw [chars, hcs], hnumber hc⟩
  | string s => exact ⟨'"', _, by rw [chars, textChars], by decide, by decide⟩
  | array items => exact ⟨'[', _, by rw [chars], by decide, by decide⟩
  | object fields => exact ⟨'\x7b', _, by rw [chars], by decide, by decide⟩

/-- A value at a depth is read back within a budget, whatever follows it. -/
def ReadsBack (budget depth : Nat) (v : Json) : Prop :=
  ∀ rest, EndsNumber rest → readValue budget (chars depth v ++ rest) = some (v, rest)

/-- A value after a new line is where the next blank is not. -/
theorem skip_line_chars (depth : Nat) (v : Json) (cs : List Char) :
    skip (line depth ++ (chars depth v ++ cs)) = chars depth v ++ cs := by
  obtain ⟨c, cs', hcs, hspace, _⟩ := chars_eq_cons depth v
  rw [skip_line, hcs, List.cons_append, skip_cons hspace]

/-! ### Arrays -/

section

variable {budget depth : Nat} {v w : Json} {vs : List Json} {rest : List Char}

theorem readItems_last (hv : ReadsBack budget (depth + 1) v) :
    readItems (budget + 1) (skip (itemChars depth [v] ++ ']' :: rest)) = some ([v], rest) := by
  have hbracket : skip (line depth ++ ']' :: rest) = ']' :: rest := by
    rw [skip_line, skip_cons (by decide)]
  rw [itemChars, List.append_assoc, List.append_assoc, skip_line_chars, readItems,
    hv _ (endsNumber_line depth _)]
  dsimp only
  rw [hbracket, after?, if_neg (by decide), after?, if_pos rfl]
  rfl

theorem readItems_more (hv : ReadsBack budget (depth + 1) v)
    (hvs : readItems budget (skip (itemChars depth (w :: vs) ++ ']' :: rest)) = some (w :: vs, rest)) :
    readItems (budget + 1) (skip (itemChars depth (v :: w :: vs) ++ ']' :: rest))
      = some (v :: w :: vs, rest) := by
  have hcomma : ∀ cs, skip (',' :: cs) = ',' :: cs := fun cs => skip_cons (by decide) cs
  rw [itemChars, List.append_assoc, List.append_assoc, List.cons_append, skip_line_chars, readItems,
    hv _ (endsNumber_comma _)]
  · dsimp only
    rw [hcomma, after?, if_pos rfl]
    dsimp only
    rw [hvs]
    rfl
  · exact nofun

/-- A list with an item starts, after its new line, with that item. -/
theorem itemChars_eq (depth : Nat) (v : Json) (vs : List Json) :
    ∃ cs, itemChars depth (v :: vs) = line (depth + 1) ++ (chars (depth + 1) v ++ cs) := by
  cases vs with
  | nil => exact ⟨line depth, by rw [itemChars]⟩
  | cons w vs => exact ⟨_, itemChars.eq_3 depth v (w :: vs) nofun⟩

theorem readsBack_nil_array : ReadsBack (budget + 1) depth (.array []) := by
  intro rest _
  have hbracket : skip (']' :: rest) = ']' :: rest := skip_cons (by decide) rest
  rw [chars, itemChars, List.cons_append, List.nil_append, List.singleton_append, readValue]
  simp only [Char.reduceEq, if_false, if_true]
  rw [hbracket, after?, if_pos rfl]

theorem readsBack_array (hitems : ∀ rest,
    readItems budget (skip (itemChars depth (v :: vs) ++ ']' :: rest)) = some (v :: vs, rest)) :
    ReadsBack (budget + 1) depth (.array (v :: vs)) := by
  intro rest _
  have hopen : after? ']' (skip (itemChars depth (v :: vs) ++ ']' :: rest)) = none := by
    obtain ⟨cs, hcs⟩ := itemChars_eq depth v vs
    obtain ⟨c, cs', hcs', _, hc⟩ := chars_eq_cons (depth + 1) v
    rw [hcs, List.append_assoc, List.append_assoc, skip_line_chars, hcs', List.cons_append, after?,
      if_neg hc]
  rw [chars, List.cons_append, List.append_assoc, List.singleton_append, readValue]
  simp only [Char.reduceEq, if_false, if_true]
  rw [hopen, hitems rest]
  rfl

end

/-! ### Objects -/

section

variable {budget depth : Nat} {k : String} {v : Json} {f : String × Json}
  {fs : List (String × Json)} {rest : List Char}

theorem skip_line_keyChars (depth : Nat) (k : String) (cs : List Char) :
    skip (line depth ++ (keyChars k ++ cs)) = keyChars k ++ cs := by
  rw [skip_line, keyChars, textChars, List.cons_append, List.cons_append, skip_cons (by decide)]

/-- A key is read back up to the value after it. -/
theorem readKey_chars (hk : (textChars k).length ≤ budget + 1) (depth : Nat) (v : Json)
    (cs : List Char) :
    readKey budget (keyChars k ++ (chars depth v ++ cs)) = some (k, chars depth v ++ cs) := by
  obtain ⟨c, cs', hcs, hspace, _⟩ := chars_eq_cons depth v
  rw [hcs, List.cons_append, readKey_keyChars hk hspace]

theorem readFields_last (hk : (textChars k).length ≤ budget + 1)
    (hv : ReadsBack budget (depth + 1) v) :
    readFields (budget + 1) (skip (fieldChars depth [(k, v)] ++ '\x7d' :: rest))
      = some ([(k, v)], rest) := by
  have hbrace : skip (line depth ++ '\x7d' :: rest) = '\x7d' :: rest := by
    rw [skip_line, skip_cons (by decide)]
  rw [fieldChars, List.append_assoc, List.append_assoc, List.append_assoc, skip_line_keyChars,
    readFields, readKey_chars hk]
  dsimp only
  rw [hv _ (endsNumber_line depth _)]
  dsimp only
  rw [hbrace, after?, if_neg (by decide), after?, if_pos rfl]
  rfl

theorem readFields_more (hk : (textChars k).length ≤ budget + 1)
    (hv : ReadsBack budget (depth + 1) v)
    (hfs : readFields budget (skip (fieldChars depth (f :: fs) ++ '\x7d' :: rest))
      = some (f :: fs, rest)) :
    readFields (budget + 1) (skip (fieldChars depth ((k, v) :: f :: fs) ++ '\x7d' :: rest))
      = some ((k, v) :: f :: fs, rest) := by
  have hcomma : ∀ cs, skip (',' :: cs) = ',' :: cs := fun cs => skip_cons (by decide) cs
  rw [fieldChars, List.append_assoc, List.append_assoc, List.append_assoc, List.cons_append,
    skip_line_keyChars, readFields, readKey_chars hk]
  · dsimp only
    rw [hv _ (endsNumber_comma _)]
    dsimp only
    rw [hcomma, after?, if_pos rfl]
    dsimp only
    rw [hfs]
    rfl
  · exact nofun

/-- A list with a field starts, after its new line, with the key of that field. -/
theorem fieldChars_eq (depth : Nat) (k : String) (v : Json) (fs : List (String × Json)) :
    ∃ cs, fieldChars depth ((k, v) :: fs) = line (depth + 1) ++ (keyChars k ++ cs) := by
  cases fs with
  | nil => exact ⟨_, by rw [fieldChars]⟩
  | cons f fs => exact ⟨_, fieldChars.eq_3 depth k v (f :: fs) nofun⟩

theorem readsBack_nil_object : ReadsBack (budget + 1) depth (.object []) := by
  intro rest _
  have hbrace : skip ('\x7d' :: rest) = '\x7d' :: rest := skip_cons (by decide) rest
  rw [chars, fieldChars, List.cons_append, List.nil_append, List.singleton_append, readValue]
  simp only [Char.reduceEq, if_false, if_true]
  rw [hbrace, after?, if_pos rfl]

theorem readsBack_object (hfields : ∀ rest,
    readFields budget (skip (fieldChars depth (f :: fs) ++ '\x7d' :: rest)) = some (f :: fs, rest)) :
    ReadsBack (budget + 1) depth (.object (f :: fs)) := by
  intro rest _
  have hopen : after? '\x7d' (skip (fieldChars depth (f :: fs) ++ '\x7d' :: rest)) = none := by
    obtain ⟨cs, hcs⟩ := fieldChars_eq depth f.1 f.2 fs
    rw [hcs, List.append_assoc, List.append_assoc, skip_line_keyChars, keyChars, textChars]
    rfl
  rw [chars, List.cons_append, List.append_assoc, List.singleton_append, readValue]
  simp only [Char.reduceEq, if_false, if_true]
  rw [hopen, hfields rest]
  rfl

end

/-! ### All values -/

theorem length_line_pos (depth : Nat) : 0 < (line depth).length := Nat.zero_lt_succ _

theorem readsBack_null (budget depth : Nat) : ReadsBack (budget + 1) depth .null := by
  intro rest _
  rw [chars, List.cons_append, readValue]
  simp [readWord]

theorem readsBack_bool (budget depth : Nat) (b : Bool) : ReadsBack (budget + 1) depth (.bool b) := by
  intro rest _
  cases b with
  | true => rw [chars, List.cons_append, readValue]; simp [readWord]
  | false => rw [chars, List.cons_append, readValue]; simp [readWord]

theorem readsBack_integer (budget depth : Nat) (n : Int) :
    ReadsBack (budget + 1) depth (.integer n) := by
  intro rest hrest
  obtain ⟨c, cs, hcs, hc⟩ := intChars_startsNumber n
  rw [chars, ← readNumber_integer n hrest, hcs, List.cons_append, readValue_startsNumber hc]

theorem readsBack_decimal (budget depth : Nat) (d : Decimal) :
    ReadsBack (budget + 1) depth (.decimal d) := by
  intro rest hrest
  obtain ⟨c, cs, hcs, hc⟩ := decimalChars_startsNumber d
  rw [chars, ← readNumber_decimal d hrest, hcs, List.cons_append, readValue_startsNumber hc]

theorem readsBack_string {budget : Nat} (depth : Nat) {s : String}
    (h : (textChars s).length ≤ budget + 1) : ReadsBack (budget + 1) depth (.string s) := by
  intro rest _
  obtain ⟨body, htext, hread⟩ := readText_textChars h rest
  rw [chars, htext, readValue]
  simp only [Char.reduceEq, if_false, if_true]
  rw [hread, Option.map_some, String.ofList_toList]

-- By recursion on the value. Each step takes one from the budget, and what it writes itself is
-- at least one character, so the rest is still shorter than the budget that is left.
mutual

/-- **Every value is read back from what is written of it.** -/
theorem readsBack_chars : ∀ (v : Json) {budget depth : Nat},
    (chars depth v).length < budget → ReadsBack budget depth v
  | .null, budget + 1, depth, _ => readsBack_null budget depth
  | .bool b, budget + 1, depth, _ => readsBack_bool budget depth b
  | .integer n, budget + 1, depth, _ => readsBack_integer budget depth n
  | .decimal d, budget + 1, depth, _ => readsBack_decimal budget depth d
  | .string s, budget + 1, depth, h => readsBack_string depth (by rw [chars] at h; omega)
  | .array [], budget + 1, depth, _ => readsBack_nil_array
  | .array (v :: vs), budget + 1, depth, h => by
    rw [chars, List.length_cons, List.length_append] at h
    exact readsBack_array (readItems_itemChars v vs (by omega))
  | .object [], budget + 1, depth, _ => readsBack_nil_object
  | .object ((k, v) :: fs), budget + 1, depth, h => by
    rw [chars, List.length_cons, List.length_append] at h
    exact readsBack_object (readFields_fieldChars k v fs (by omega))

/-- The items of an array are read back up to its bracket. -/
theorem readItems_itemChars : ∀ (v : Json) (vs : List Json) {budget depth : Nat},
    (itemChars depth (v :: vs)).length < budget → ∀ rest,
      readItems budget (skip (itemChars depth (v :: vs) ++ ']' :: rest)) = some (v :: vs, rest)
  | v, [], budget + 1, depth, h, rest => by
    have hline := length_line_pos (depth + 1)
    rw [itemChars, List.length_append, List.length_append] at h
    exact readItems_last (readsBack_chars v (by omega))
  | v, w :: vs, budget + 1, depth, h, rest => by
    have hline := length_line_pos (depth + 1)
    rw [itemChars, List.length_append, List.length_append, List.length_cons] at h
    · exact readItems_more (readsBack_chars v (by omega))
        (readItems_itemChars w vs (by omega) rest)
    · exact nofun

/-- The fields of an object are read back up to its brace. -/
theorem readFields_fieldChars : ∀ (k : String) (v : Json) (fs : List (String × Json))
    {budget depth : Nat}, (fieldChars depth ((k, v) :: fs)).length < budget → ∀ rest,
      readFields budget (skip (fieldChars depth ((k, v) :: fs) ++ '\x7d' :: rest))
        = some ((k, v) :: fs, rest)
  | k, v, [], budget + 1, depth, h, rest => by
    have hline := length_line_pos (depth + 1)
    simp only [fieldChars, keyChars, List.length_append] at h
    exact readFields_last (by omega) (readsBack_chars v (by omega))
  | k, v, (k', v') :: fs, budget + 1, depth, h, rest => by
    have hline := length_line_pos (depth + 1)
    simp only [fieldChars, keyChars, List.length_append, List.length_cons] at h
    exact readFields_more (by omega) (readsBack_chars v (by omega))
      (readFields_fieldChars k' v' fs (by omega) rest)

end

/--
**A written value is the one value that its text spells**, and blanks after it make no
difference.
-/
theorem parse?_pretty (v : Json) (blanks : String)
    (h : ∀ c ∈ blanks.toList, isSpace c = true) : parse? (v.pretty ++ blanks) = some v := by
  obtain ⟨c, cs, hcs, hspace, _⟩ := chars_eq_cons 0 v
  have htext : (v.pretty ++ blanks).toList = chars 0 v ++ blanks.toList := by
    rw [pretty, String.toList_append, String.toList_ofList]
  have hstart : skip (chars 0 v ++ blanks.toList) = chars 0 v ++ blanks.toList := by
    rw [hcs, List.cons_append, skip_cons hspace]
  have hend : EndsNumber blanks.toList := by
    -- a number does not go on with a blank
    intro c hc
    have hspace := h c (List.mem_of_mem_head? hc)
    simp only [isSpace, Bool.or_eq_true, decide_eq_true_eq] at hspace
    rcases hspace with ((rfl | rfl) | rfl) | rfl
    all_goals decide
  have hread : ReadsBack (2 * (chars 0 v ++ blanks.toList).length + 2) 0 v := by
    refine readsBack_chars v ?_
    rw [List.length_append]
    omega
  have hrest : skip blanks.toList = [] := by
    rw [← List.append_nil blanks.toList]
    exact List.dropWhile_append_of_pos h
  unfold parse?
  rw [htext, hstart]
  dsimp only
  rw [hread _ hend]
  dsimp only
  rw [hrest]
  rfl

end DashIndex.Json
