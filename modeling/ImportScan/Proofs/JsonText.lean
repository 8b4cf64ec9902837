import ImportScan.Json.Value

/-!
# The text of a JSON value

A value is written as a text, and the text is read into tokens again.  Whatever the value is, these
are the tokens that one expects: strings are what they were before they were escaped, and numbers
have their values.

## Main definitions

* `JsonLexeme`, `jsonLexemes` — tokens with the values of natural numbers, and those of a text.
* `Lexes` — a text has the given tokens.
* `JsonValue.lexemes` — the tokens of a value.

## Main results

* `readJsonString?_flatMap_escapeJson` — a string is read back from its escaped characters.
* `readJsonNumber?_toDigits` — a number is read up to its last digit.
* `JsonValue.lexes_write`, `JsonValue.jsonLexemes_pretty` — **the text of a value has the tokens of
  the value**.
-/

namespace ImportScan

open JsonValue

/-! ### Strings -/

/-- What an escaped character is read as: a control character without a letter of its own by its
code. -/
def escapedUnit (c : Char) : Char ⊕ Nat :=
  if c.toNat < 0x20 ∧ c ∉ ['\x08', '\x0c', '\n', '\r', '\t'] then .inr c.toNat else .inl c

/-- A control character is written by two digits and read back from them. -/
theorem hexNumber?_twoHexDigits : ∀ n < 0x20,
    (twoHexDigits n).toList = [Nat.digitChar (n / 16), Nat.digitChar (n % 16)] ∧
      hexNumber? ['0', '0', Nat.digitChar (n / 16), Nat.digitChar (n % 16)] = some n := by
  decide

/-- An escaped character is read as one unit. -/
theorem readUnits?_escapeJson (c : Char) (cs : List Char) :
    readUnits? ((escapeJson c).toList ++ cs)
      = (readUnits? cs).map fun r => (escapedUnit c :: r.1, r.2) := by
  -- a short escape is a backslash and a letter other than u
  have hletter : ∀ e u, e ≠ 'u' → jsonEscape? e = some u →
      readUnits? ('\\' :: e :: cs) = (readUnits? cs).map fun r => (.inl u :: r.1, r.2) := by
    intro e u he hu
    rw [readUnits?.eq_4 e cs (by intro a b c d rest heq; exact fun _ => he heq), hu]
    cases readUnits? cs <;> rfl
  unfold escapeJson
  split
  · next hc => subst hc; exact hletter _ _ (by decide) rfl
  split
  · next hc => subst hc; exact hletter _ _ (by decide) rfl
  split
  · next hc => subst hc; exact hletter _ _ (by decide) rfl
  split
  · next hc => subst hc; exact hletter _ _ (by decide) rfl
  split
  · next hc => subst hc; exact hletter _ _ (by decide) rfl
  split
  · next hc => subst hc; exact hletter _ _ (by decide) rfl
  split
  · next hc => subst hc; exact hletter _ _ (by decide) rfl
  next hquote hslash hb hf hn hr ht =>
  -- the other controls are written with four digits
  split
  · next hcontrol =>
    obtain ⟨hdigits, hvalue⟩ := hexNumber?_twoHexDigits c.toNat hcontrol
    have hunit : escapedUnit c = .inr c.toNat := by simp [escapedUnit, hcontrol, hb, hf, hn, hr, ht]
    rw [String.toList_append, hdigits, hunit]
    show readUnits? ('\\' :: 'u' :: '0' :: '0' :: _ :: _ :: cs) = _
    rw [readUnits?, hvalue]
    cases readUnits? cs <;> rfl
  · next hcontrol =>
    have hunit : escapedUnit c = .inl c := by simp [escapedUnit, hcontrol]
    rw [String.toList_singleton, List.singleton_append, hunit]
    rw [readUnits?.eq_5 c cs hquote (fun _ _ _ _ _ h => absurd h hslash)
      (fun _ _ h => absurd h hslash), if_neg hcontrol]

/-- A unit is put together with those behind it to the character that was escaped. -/
theorem joinUnits?_escapedUnit (c : Char) (units : List (Char ⊕ Nat)) :
    joinUnits? (escapedUnit c :: units) = (joinUnits? units).map (c :: ·) := by
  unfold escapedUnit
  split
  · next hc =>
    -- a control character is not one half of a pair
    have hlead : isLeadUnit c.toNat = false := by
      rw [isLeadUnit, decide_eq_false (by omega), Bool.false_and]
    have htrail : isTrailUnit c.toNat = false := by
      rw [isTrailUnit, decide_eq_false (by omega), Bool.false_and]
    cases units with
    | nil => simp [joinUnits?, hlead, htrail]
    | cons u units => cases u <;> simp [joinUnits?, hlead, htrail]
  · rfl

theorem joinUnits?_map_escapedUnit (cs : List Char) :
    joinUnits? (cs.map escapedUnit) = some cs := by
  induction cs with
  | nil => rfl
  | cons c cs ih => rw [List.map_cons, joinUnits?_escapedUnit, ih, Option.map_some]

theorem readUnits?_flatMap_escapeJson (text cs : List Char) :
    readUnits? ((text.flatMap fun c => (escapeJson c).toList) ++ '\x22' :: cs)
      = some (text.map escapedUnit, cs) := by
  induction text with
  | nil => rfl
  | cons c text ih =>
    rw [List.flatMap_cons, List.append_assoc, readUnits?_escapeJson, ih]
    rfl

theorem toList_quote (s : String) :
    (quote s).toList
      = '\x22' :: ((s.toList.flatMap fun c => (escapeJson c).toList) ++ ['\x22']) := by
  simp [quote, String.toList_join, List.flatMap_map]

theorem readJsonString?_flatMap_escapeJson (s : String) (cs : List Char) :
    readJsonString? ((s.toList.flatMap fun c => (escapeJson c).toList) ++ '\x22' :: cs)
      = some (.string (some s), cs) := by
  rw [readJsonString?, readUnits?_flatMap_escapeJson, Option.map_some, joinUnits?_map_escapedUnit,
    Option.map_some, String.ofList_toList]

/-! ### Numbers -/

/-- A number ends here. -/
def EndsNumber (cs : List Char) : Prop :=
  ∀ c ∈ cs.head?, c.isDigit = false ∧ c ≠ '.' ∧ c ≠ 'e' ∧ c ≠ 'E'

theorem isDigit_of_mem_digits {n : Nat} {c : Char} (h : c ∈ Nat.toDigits 10 n) : c.isDigit = true :=
  Nat.isDigit_of_mem_toDigits (by decide) (by decide) h

theorem splitDigits_append {digits cs : List Char} (h : ∀ c ∈ digits, c.isDigit = true)
    (hend : EndsNumber cs) : splitDigits (digits ++ cs) = (digits, cs) := by
  have hstop : cs.takeWhile Char.isDigit = [] ∧ cs.dropWhile Char.isDigit = cs := by
    cases cs with
    | nil => exact ⟨rfl, rfl⟩
    | cons c cs =>
      have hc := (hend c rfl).1
      simp [hc]
  rw [splitDigits, List.takeWhile_append_of_pos h, List.dropWhile_append_of_pos h, hstop.1, hstop.2,
    List.append_nil]

theorem digitsValue_toDigits (n : Nat) : digitsValue (Nat.toDigits 10 n) = n :=
  Nat.ofDigitChars_ten_toDigits

/-- Only the number zero starts with a zero. -/
theorem toDigits_eq_zero_cons {n : Nat} {digits : List Char}
    (h : Nat.toDigits 10 n = '0' :: digits) : digits = [] := by
  induction n using Nat.strongRecOn generalizing digits with
  | ind n ih =>
    rcases Nat.lt_or_ge n 10 with hlt | hge
    · rw [Nat.toDigits_of_lt_base hlt] at h
      exact (List.cons.inj h).2.symm
    · -- the digits before the last one would be those of zero
      have hless : n / 10 < n := Nat.div_lt_self (by omega) (by decide)
      rw [Nat.toDigits_of_base_le (by decide) hge] at h
      cases hbefore : Nat.toDigits 10 (n / 10) with
      | nil => exact absurd hbefore (List.ne_nil_of_length_pos Nat.length_toDigits_pos)
      | cons c before =>
        rw [hbefore, List.cons_append] at h
        obtain ⟨rfl, -⟩ := List.cons.inj h
        have hvalue := digitsValue_toDigits (n / 10)
        rw [hbefore, ih _ hless hbefore] at hvalue
        have hzero : digitsValue ['0'] = 0 := rfl
        omega

theorem readInteger?_toDigits (n : Nat) {cs : List Char} (hend : EndsNumber cs) :
    readInteger? (Nat.toDigits 10 n ++ cs) = some (Nat.toDigits 10 n, cs) := by
  rw [readInteger?, splitDigits_append (fun _ => isDigit_of_mem_digits) hend]
  split
  · next heq =>
    have hnil := congrArg Prod.fst heq
    exact absurd hnil (List.ne_nil_of_length_pos Nat.length_toDigits_pos)
  · next heq => exact absurd (toDigits_eq_zero_cons (congrArg Prod.fst heq)) (List.cons_ne_nil _ _)
  · rfl

/-- A number is read up to its last digit. -/
theorem readJsonNumber?_toDigits (n : Nat) {cs : List Char} (hend : EndsNumber cs) :
    ∃ t, readJsonNumber? (Nat.toDigits 10 n ++ cs) = some (t, cs) := by
  -- there is no sign, no decimals and no exponent
  have hsign : ((Nat.toDigits 10 n ++ cs).head? == some '-') = false := by
    cases hdigits : Nat.toDigits 10 n with
    | nil => exact absurd hdigits (List.ne_nil_of_length_pos Nat.length_toDigits_pos)
    | cons c digits =>
      have hc : c.isDigit = true := isDigit_of_mem_digits (hdigits ▸ List.mem_cons_self)
      simp only [List.cons_append, List.head?_cons, beq_eq_false_iff_ne, ne_eq, Option.some.injEq]
      rintro rfl
      exact absurd hc (by decide)
  have hdecimals : readDecimals? cs = some ([], cs) := by
    cases cs with
    | nil => rfl
    | cons c cs => rw [readDecimals?.eq_2 _ fun _ h => (hend c rfl).2.1 (List.cons.inj h).1]
  have hexponent : readExponent? cs = some (0, cs) := by
    cases cs with
    | nil => rfl
    | cons c cs =>
      obtain ⟨-, -, hlower, hupper⟩ := hend c rfl
      simp [readExponent?, hlower, hupper]
  rw [readJsonNumber?, hsign, if_neg Bool.false_ne_true, readInteger?_toDigits n hend]
  dsimp only
  rw [hdecimals]
  dsimp only
  rw [hexponent]
  exact ⟨_, rfl⟩

/-! ### Tokens -/

/-- A token of a text, or a natural number by its value. -/
inductive JsonLexeme where
  /-- A natural number. -/
  | number (n : Nat)
  /-- Any other token. -/
  | token (t : JsonToken)
  deriving DecidableEq, Repr, Inhabited

/-- The token of a text: a text of digits is a natural number. -/
def JsonLexeme.of (t : JsonToken) (text : List Char) : JsonLexeme :=
  if text.all Char.isDigit then .number (digitsValue text) else .token t

/-- The tokens of a text, with the values of natural numbers; `fuel` bounds the number of steps,
each of which takes a character. -/
def jsonLexemesFrom : Nat → List Char → List JsonLexeme
  | _, [] => []
  | 0, _ :: _ => [.token .bad]
  | fuel + 1, c :: cs =>
    if isJsonBlank c then jsonLexemesFrom fuel cs
    else
      match readJsonToken? c cs with
      | some (t, rest) =>
        .of t ((c :: cs).take (cs.length + 1 - rest.length)) :: jsonLexemesFrom fuel rest
      | none => [.token .bad]

/-- The tokens of a text, with the values of natural numbers. -/
def jsonLexemes (s : String) : List JsonLexeme := jsonLexemesFrom s.toList.length s.toList

/-- The text has the given tokens, however many steps are allowed. -/
def Lexes (cs : List Char) (ls : List JsonLexeme) : Prop :=
  ∀ fuel, cs.length ≤ fuel → jsonLexemesFrom fuel cs = ls

theorem readJsonToken?_of_isDigit {c : Char} {cs : List Char} (h : c.isDigit = true) :
    readJsonToken? c cs = readJsonNumber? (c :: cs) := by
  unfold readJsonToken?
  split
  all_goals first | exact absurd h (by decide) | rw [h, Bool.or_true, if_pos rfl]

theorem isJsonBlank_of_isDigit {c : Char} (h : c.isDigit = true) : isJsonBlank c = false := by
  have hne : ∀ d, d.isDigit = false → (c == d) = false := by
    intro d hd
    rw [beq_eq_false_iff_ne]
    rintro rfl
    exact absurd h (hd ▸ Bool.false_ne_true)
  rw [isJsonBlank, hne _ (by decide), hne _ (by decide), hne _ (by decide), hne _ (by decide)]
  rfl

namespace Lexes

variable {cs rest : List Char} {ls : List JsonLexeme} {c : Char} {t : JsonToken}

theorem nil : Lexes [] [] := fun fuel _ => by cases fuel <;> rfl

/-- Blanks are passed over. -/
theorem blanks (hblank : ∀ c ∈ cs, isJsonBlank c = true) (h : Lexes rest ls) :
    Lexes (cs ++ rest) ls := by
  induction cs with
  | nil => exact h
  | cons c cs ih =>
    obtain ⟨hc, hcs⟩ := List.forall_mem_cons.1 hblank
    intro fuel hfuel
    cases fuel with
    | zero => simp at hfuel
    | succ fuel =>
      rw [List.cons_append, jsonLexemesFrom, if_pos hc]
      exact ih hcs fuel (by simpa using hfuel)

/-- A token, and those behind it. -/
theorem cons (hblank : isJsonBlank c = false)
    (hread : readJsonToken? c (cs ++ rest) = some (t, rest))
    (h : Lexes rest ls) : Lexes (c :: cs ++ rest) (.of t (c :: cs) :: ls) := by
  intro fuel hfuel
  cases fuel with
  | zero => simp at hfuel
  | succ fuel =>
    -- the lexeme of the token is what has been taken from the text
    have htake : (c :: (cs ++ rest)).take ((cs ++ rest).length + 1 - rest.length) = c :: cs := by
      have hlength : (cs ++ rest).length + 1 - rest.length = (c :: cs).length := by
        simp
        omega
      rw [hlength, ← List.cons_append, List.take_left']
      rfl
    have hrest : rest.length ≤ fuel := by
      simp at hfuel
      omega
    rw [List.cons_append, jsonLexemesFrom, hblank, if_neg Bool.false_ne_true, hread]
    dsimp only
    rw [htake, h fuel hrest]

theorem sign (hblank : isJsonBlank c = false) (hdigit : c.isDigit = false)
    (hread : readJsonToken? c rest = some (t, rest)) (h : Lexes rest ls) :
    Lexes (c :: rest) (.token t :: ls) := by
  have hcons : Lexes ([c] ++ rest) (.of t [c] :: ls) := cons hblank hread h
  simpa [JsonLexeme.of, hdigit] using hcons

/-- A string. -/
theorem string (s : String) (h : Lexes rest ls) :
    Lexes ((quote s).toList ++ rest) (.token (.string (some s)) :: ls) := by
  have hread := readJsonString?_flatMap_escapeJson s rest
  have hof : ∀ t cs, JsonLexeme.of t ('\x22' :: cs) = .token t := fun _ _ => rfl
  rw [toList_quote, ← hof]
  refine cons rfl ?_ h
  rw [List.append_assoc, List.singleton_append]
  exact hread

/-- A number, which must end where its digits do. -/
theorem number (n : Nat) (hend : EndsNumber rest) (h : Lexes rest ls) :
    Lexes ((toString n).toList ++ rest) (.number n :: ls) := by
  obtain ⟨t, hread⟩ := readJsonNumber?_toDigits n hend
  have hof : JsonLexeme.of t (Nat.toDigits 10 n) = .number n := by
    rw [JsonLexeme.of, if_pos (List.all_eq_true.2 fun _ => isDigit_of_mem_digits),
      digitsValue_toDigits]
  rw [Nat.toString_eq_ofList_toDigits, String.toList_ofList, ← hof]
  cases hdigits : Nat.toDigits 10 n with
  | nil => exact absurd hdigits (List.ne_nil_of_length_pos Nat.length_toDigits_pos)
  | cons c digits =>
    have hc : c.isDigit = true := isDigit_of_mem_digits (hdigits ▸ List.mem_cons_self)
    rw [hdigits] at hread
    refine cons ?_ ((readJsonToken?_of_isDigit hc).trans hread) h
    exact isJsonBlank_of_isDigit hc

/-- A word. -/
theorem word {w : String} (hw : w.toList = c :: cs) (hblank : isJsonBlank c = false)
    (hdigit : c.isDigit = false)
    (hread : readJsonToken? c (cs ++ rest) = readWord? w t (c :: cs ++ rest)) (h : Lexes rest ls) :
    Lexes (w.toList ++ rest) (.token t :: ls) := by
  have hof : JsonLexeme.of t (c :: cs) = .token t := by simp [JsonLexeme.of, hdigit]
  rw [hw, ← hof]
  refine cons hblank (hread.trans ?_) h
  rw [readWord?, hw, if_pos (by simp)]
  simp

end Lexes

/-! ### Values -/

namespace JsonValue

mutual

/-- The tokens of a value. -/
def lexemes : JsonValue → List JsonLexeme
  | null => [.token .null]
  | bool b => [.token (.bool b)]
  | number n => [.number n]
  | string s => [.token (.string (some s))]
  | array [] => [.token .openBracket, .token .closeBracket]
  | array (v :: items) => .token .openBracket :: (v.lexemes ++ furtherItems items)
  | object [] => [.token .openBrace, .token .closeBrace]
  | object ((name, v) :: members) =>
    .token .openBrace :: .token (.string (some name)) :: .token .colon ::
      (v.lexemes ++ furtherMembers members)

/-- The tokens of the items behind the first one, and of the end of the array. -/
def furtherItems : List JsonValue → List JsonLexeme
  | [] => [.token .closeBracket]
  | v :: items => .token .comma :: (v.lexemes ++ furtherItems items)

/-- The tokens of the members behind the first one, and of the end of the object. -/
def furtherMembers : List (String × JsonValue) → List JsonLexeme
  | [] => [.token .closeBrace]
  | (name, v) :: members =>
    .token .comma :: .token (.string (some name)) :: .token .colon ::
      (v.lexemes ++ furtherMembers members)

end

/-- The lines behind the first one, each behind a comma, and the start of the line behind them. -/
def furtherLines (depth : Nat) (lines : List String) : List Char :=
  (lines.flatMap fun line => ',' :: ((newLine (depth + 1)).toList ++ line.toList)) ++
    (newLine depth).toList

theorem toList_intercalate_cons (sep line : String) (lines : List String) :
    (sep.intercalate (line :: lines)).toList
      = line.toList ++ lines.flatMap fun line => sep.toList ++ line.toList := by
  induction lines generalizing line with
  | nil => simp
  | cons next lines ih =>
    rw [String.intercalate_cons_cons, String.toList_append, String.toList_append, ih,
      List.flatMap_cons, List.append_assoc, List.append_assoc]

theorem toList_bracketed_nil (opener closer : String) (depth : Nat) :
    (bracketed opener closer depth []).toList = opener.toList ++ closer.toList := by
  rw [bracketed, List.isEmpty_nil, if_pos rfl, String.toList_append]

theorem toList_bracketed_cons (opener closer : String) (depth : Nat) (line : String)
    (lines : List String) :
    (bracketed opener closer depth (line :: lines)).toList =
      opener.toList ++ ((newLine (depth + 1)).toList ++
        (line.toList ++ (furtherLines depth lines ++ closer.toList))) := by
  rw [bracketed, List.isEmpty_cons, if_neg Bool.false_ne_true]
  simp only [String.toList_append, toList_intercalate_cons, furtherLines, List.append_assoc]
  rfl

theorem furtherLines_cons (depth : Nat) (line : String) (lines : List String) :
    furtherLines depth (line :: lines)
      = ',' :: ((newLine (depth + 1)).toList ++ (line.toList ++ furtherLines depth lines)) := by
  simp [furtherLines]

theorem isJsonBlank_of_mem_newLine {depth : Nat} :
    ∀ c ∈ (newLine depth).toList, isJsonBlank c = true := by
  intro c hc
  simp only [newLine, blanks, String.toList_append, String.toList_ofList, List.mem_append] at hc
  rcases hc with hc | hc
  · rw [List.mem_singleton.1 hc]
    rfl
  · rw [List.eq_of_mem_replicate hc]
    rfl

theorem endsNumber_of_head? {cs : List Char} {c : Char} (h : cs.head? = some c)
    (hc : c.isDigit = false ∧ c ≠ '.' ∧ c ≠ 'e' ∧ c ≠ 'E') : EndsNumber cs := by
  intro d hd
  rw [h] at hd
  exact Option.mem_some.1 hd ▸ hc

theorem endsNumber_furtherLines (depth : Nat) (lines : List String) (cs : List Char) :
    EndsNumber (furtherLines depth lines ++ cs) := by
  cases lines with
  | nil =>
    have hhead : (furtherLines depth [] ++ cs).head? = some '\n' := by
      simp [furtherLines, newLine]
    exact endsNumber_of_head? hhead (by decide)
  | cons line lines =>
    have hhead : (furtherLines depth (line :: lines) ++ cs).head? = some ',' := by
      simp [furtherLines]
    exact endsNumber_of_head? hhead (by decide)

variable {rest : List Char} {ls : List JsonLexeme}

theorem lexes_newLine (depth : Nat) (h : Lexes rest ls) :
    Lexes ((newLine depth).toList ++ rest) ls :=
  h.blanks isJsonBlank_of_mem_newLine

theorem lexes_name (name : String) (h : Lexes rest ls) :
    Lexes ((quote name ++ ": ").toList ++ rest)
      (.token (.string (some name)) :: .token .colon :: ls) := by
  rw [String.toList_append, List.append_assoc]
  refine Lexes.string name (.sign rfl rfl rfl ?_)
  have hblank : ∀ c ∈ [' '], isJsonBlank c = true := List.forall_mem_singleton.2 rfl
  exact h.blanks hblank

mutual

/-- The text of a value has the tokens of the value. -/
theorem lexes_write (v : JsonValue) (depth : Nat) {rest : List Char} {ls : List JsonLexeme}
    (hend : EndsNumber rest) (h : Lexes rest ls) :
    Lexes ((v.write depth).toList ++ rest) (v.lexemes ++ ls) :=
  match v with
  | null => .word (w := "null") rfl rfl rfl rfl h
  | bool true => .word (w := "true") rfl rfl rfl rfl h
  | bool false => .word (w := "false") rfl rfl rfl rfl h
  | number n => .number n hend h
  | string s => .string s h
  | array [] => by
    rw [write, writeItems, toList_bracketed_nil, lexemes]
    exact .sign (c := '[') rfl rfl rfl (.sign (c := ']') rfl rfl rfl h)
  | array (v :: items) => by
    rw [write, writeItems, toList_bracketed_cons, lexemes]
    simp only [List.append_assoc, List.cons_append]
    refine .sign rfl rfl rfl (lexes_newLine _ (lexes_write v _ ?_ ?_))
    · -- what stands behind the value lets no number go on
      exact endsNumber_furtherLines _ _ _
    · exact lexes_items items depth h
  | object [] => by
    rw [write, writeMembers, toList_bracketed_nil, lexemes]
    exact .sign (c := '{') rfl rfl rfl (.sign (c := '}') rfl rfl rfl h)
  | object ((name, v) :: members) => by
    rw [write, writeMembers, toList_bracketed_cons, lexemes, String.toList_append]
    simp only [List.append_assoc, List.cons_append]
    refine .sign rfl rfl rfl (lexes_newLine _ (lexes_name name (lexes_write v _ ?_ ?_)))
    · exact endsNumber_furtherLines _ _ _
    · exact lexes_members members depth h

/-- The lines of the items behind the first one. -/
theorem lexes_items (items : List JsonValue) (depth : Nat) {rest : List Char} {ls : List JsonLexeme}
    (h : Lexes rest ls) :
    Lexes (furtherLines depth (writeItems (depth + 1) items) ++ (']' :: rest))
      (furtherItems items ++ ls) :=
  match items with
  | [] => by
    rw [writeItems, furtherItems]
    exact lexes_newLine depth (.sign rfl rfl rfl h)
  | v :: items => by
    rw [writeItems, furtherLines_cons, furtherItems]
    simp only [List.append_assoc, List.cons_append]
    refine .sign rfl rfl rfl (lexes_newLine _ (lexes_write v _ ?_ ?_))
    · exact endsNumber_furtherLines _ _ _
    · exact lexes_items items depth h

/-- The lines of the members behind the first one. -/
theorem lexes_members (members : List (String × JsonValue)) (depth : Nat) {rest : List Char}
    {ls : List JsonLexeme} (h : Lexes rest ls) :
    Lexes (furtherLines depth (writeMembers (depth + 1) members) ++ ('}' :: rest))
      (furtherMembers members ++ ls) :=
  match members with
  | [] => by
    rw [writeMembers, furtherMembers]
    exact lexes_newLine depth (.sign rfl rfl rfl h)
  | (name, v) :: members => by
    rw [writeMembers, furtherLines_cons, furtherMembers, String.toList_append]
    simp only [List.append_assoc, List.cons_append]
    refine .sign rfl rfl rfl (lexes_newLine _ (lexes_name name (lexes_write v _ ?_ ?_)))
    · exact endsNumber_furtherLines _ _ _
    · exact lexes_members members depth h

end

/-- **The text of a value has the tokens of the value**, also with blanks behind it. -/
theorem jsonLexemes_pretty (v : JsonValue) {tail : String}
    (hblank : ∀ c ∈ tail.toList, isJsonBlank c = true) :
    jsonLexemes (v.pretty ++ tail) = v.lexemes := by
  have hnone : Lexes tail.toList [] := by simpa using Lexes.nil.blanks hblank
  have hend : EndsNumber tail.toList := by
    intro c hc
    have hc := hblank c (List.mem_of_mem_head? hc)
    simp only [isJsonBlank, Bool.or_eq_true, beq_iff_eq] at hc
    rcases hc with ((rfl | rfl) | rfl) | rfl <;> decide
  have hlexes := lexes_write v 0 hend hnone
  rw [List.append_nil, ← String.toList_append] at hlexes
  exact hlexes _ (Nat.le_refl _)

end JsonValue

end ImportScan
