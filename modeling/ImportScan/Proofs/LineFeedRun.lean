import ImportScan.Proofs.LineFeedScan
import ImportScan.Proofs.ParallelRun

/-!
# Passes over a text and over its pairs

A lexer over a text without carriage returns and a lexer over the same text with its line feeds
spelled as pairs go side by side.  They stand behind the same characters, on the same lines and
columns, and whatever the one pulls is pulled by the other.

## Main definitions

* `AlikeOffsets` — the offsets of one place in both texts.
* `Likeness.crlf` — both texts correspond: texts are spelled anew, lines and columns are the same.
* `Lexer.Abreast` — both lexers have read the same.

## Main results

* `AlikeOffsets.exists_slice?` — the slices between the same places are the same, spelled anew.
* `Likeness.keeps_crlf` — **lexers side by side stay side by side**.
-/

namespace ImportScan

/-! ### Offsets -/

/-- The offsets of one place in a text and in the text with its line feeds spelled as pairs. -/
def AlikeOffsets (text : List Char) (a a' : Nat) : Prop :=
  ∃ before behind, text = before ++ behind ∧ byteLength before = a ∧ byteLength (crlf before) = a'

namespace AlikeOffsets

variable {text : List Char} {a a' b b' : Nat}

theorem zero (text : List Char) : AlikeOffsets text 0 0 := ⟨[], text, rfl, rfl, rfl⟩

theorem byteLength (text : List Char) :
    AlikeOffsets text (ImportScan.byteLength text) (ImportScan.byteLength (crlf text)) :=
  ⟨text, [], by simp, rfl, rfl⟩

/-- Of two places, the one that does not come first has more before it on both sides. -/
theorem exists_between (ha : AlikeOffsets text a a') (hb : AlikeOffsets text b b') (hab : a ≤ b) :
    ∃ before cs behind, text = before ++ (cs ++ behind) ∧
      ImportScan.byteLength before = a ∧ ImportScan.byteLength (crlf before) = a' ∧
      a + ImportScan.byteLength cs = b ∧ a' + ImportScan.byteLength (crlf cs) = b' := by
  obtain ⟨before, rest, rfl, rfl, rfl⟩ := ha
  obtain ⟨upTo, behind, hcut, rfl, rfl⟩ := hb
  obtain ⟨cs, rfl, rfl⟩ := exists_append_of_byteLength_le hcut hab
  exact ⟨before, cs, behind, rfl, rfl, rfl, by simp, by simp⟩

theorem exists_slice? (ha : AlikeOffsets text a a') (hb : AlikeOffsets text b b') (hab : a ≤ b) :
    ∃ cs, slice? text ⟨a, b⟩ = some cs ∧ slice? (crlf text) ⟨a', b'⟩ = some (crlf cs) := by
  obtain ⟨before, cs, behind, rfl, rfl, rfl, rfl, rfl⟩ := ha.exists_between hb hab
  refine ⟨cs, slice?_append before cs behind, ?_⟩
  rw [crlf_append, crlf_append]
  exact slice?_append (crlf before) (crlf cs) (crlf behind)

/-- The places come in the same order on both sides. -/
theorem lt_iff (ha : AlikeOffsets text a a') (hb : AlikeOffsets text b b') : a' < b' ↔ a < b := by
  have hmono : ∀ {a a' b b' : Nat}, AlikeOffsets text a a' → AlikeOffsets text b b' → a ≤ b →
      (a' ≤ b' ∧ (a < b → a' < b')) := by
    intro a a' b b' ha hb hab
    obtain ⟨before, cs, behind, -, -, -, rfl, rfl⟩ := ha.exists_between hb hab
    refine ⟨Nat.le_add_right _ _, fun hlt => ?_⟩
    -- what lies between two places that differ is spelled by at least one character
    have hne : cs ≠ [] := by
      rintro rfl
      simp at hlt
    have hne' : crlf cs ≠ [] := by
      intro hnil
      exact hne ((crlf_eq_iff (by simp)).1 hnil)
    have hpos := byteLength_pos hne'
    omega
  constructor
  -- otherwise the places behind would be in the other order
  · intro hlt
    by_contra hle
    have hba := (hmono hb ha (by omega)).1
    omega
  · intro hlt
    exact (hmono ha hb (by omega)).2 hlt

theorem max_max (ha : AlikeOffsets text a a') (hb : AlikeOffsets text b b') :
    AlikeOffsets text (max a b) (max a' b') := by
  rcases Nat.lt_or_ge a b with hlt | hge
  · have hlt' := (ha.lt_iff hb).2 hlt
    rwa [Nat.max_eq_right (Nat.le_of_lt hlt), Nat.max_eq_right (Nat.le_of_lt hlt')]
  · have hge' : b' ≤ a' := Nat.not_lt.1 (mt (ha.lt_iff hb).1 (Nat.not_lt.2 hge))
    rwa [Nat.max_eq_left hge, Nat.max_eq_left hge']

end AlikeOffsets

/-- A text and the text with its line feeds spelled as pairs: lines and columns are the same. -/
def Likeness.crlf (text : List Char) : Likeness :=
  { Respelling.crlf with
    place := fun loc loc' => loc'.line = loc.line ∧ loc'.column = loc.column ∧
      AlikeOffsets text loc.offset loc'.offset
    offset := AlikeOffsets text
    place_offset := fun h => h.2.2 }

theorem Likeness.crlf_text (text cs : List Char) :
    (crlf text).text (String.ofList cs) = String.ofList (ImportScan.crlf cs) := by
  show String.ofList (ImportScan.crlf (String.ofList cs).toList) = _
  rw [String.toList_ofList]

/-! ### Lexers -/

/-- Whether a slash starts a regular expression does not depend on the spelling. -/
theorem regexAllowed_text (k : Likeness) (kind : TokenKind) (w : String) :
    regexAllowed (some (kind, k.text w)) = regexAllowed (some (kind, w)) := by
  -- the signs that decide have one line, and nothing else is spelled like them
  have hsign : ∀ sign : String, isOneLine sign = true → (k.text w == sign) = (w == sign) := by
    intro sign hsign
    rw [Bool.eq_iff_iff, beq_iff_eq, beq_iff_eq, k.text_eq_iff hsign]
  have hkeywords : ∀ word ∈ Language.regexKeywords, isOneLine word = true := by decide +kernel
  cases kind with
  | punctuator =>
    simp only [regexAllowed, hsign ")" (by decide), hsign "]" (by decide),
      hsign "\x7d" (by decide)]
  | keyword =>
    show Language.regexKeywords.contains (k.text w) = Language.regexKeywords.contains w
    rw [Bool.eq_iff_iff, List.contains_iff_mem, List.contains_iff_mem]
    constructor
    · intro hmem
      rwa [← (k.text_eq_iff (hkeywords _ hmem)).1 rfl] at hmem
    · intro hmem
      rwa [k.text_of_isOneLine (hkeywords _ hmem)]
  | templateLiteral => exact hsign "$\x7b" (by decide)
  | whitespace | comment | identifier | numericLiteral | stringLiteral | regexpLiteral
  | preprocessor => rfl

theorem isLineTerminator_iff (kind : TokenKind) (cs : List Char) (loc : Location) :
    (⟨kind, String.ofList cs, loc⟩ : Token).isLineTerminator = true ↔ kind = .whitespace ∧
      (cs = ['\n'] ∨ cs = ['\r', '\n'] ∨ cs = ['\r'] ∨ cs = ['\u2028'] ∨ cs = ['\u2029']) := by
  simp only [Token.isLineTerminator, Bool.and_eq_true, Bool.or_eq_true, beq_iff_eq,
    ← String.toList_inj, String.toList_ofList, or_assoc]
  rfl

/-- A line end ends a line in both spellings, and nothing else does. -/
theorem isLineTerminator_crlf {cs : List Char} (h : '\r' ∉ cs) (kind : TokenKind)
    (loc loc' : Location) : (⟨kind, String.ofList (crlf cs), loc'⟩ : Token).isLineTerminator
      = (⟨kind, String.ofList cs, loc⟩ : Token).isLineTerminator := by
  have hnil : ∀ ds, crlf ds = [] ↔ ds = [] := fun ds => crlf_eq_iff (by simp)
  rw [Bool.eq_iff_iff, isLineTerminator_iff, isLineTerminator_iff]
  refine and_congr_right fun _ => ?_
  cases cs with
  | nil => rw [crlf_nil]
  | cons c cs =>
    rw [List.mem_cons, not_or] at h
    by_cases hc : c = '\n'
    · subst hc
      simp [hnil]
    · simp [crlf_cons hc, hnil, hc, Ne.symm h.1]

/-- Two lexers have read the same, and read on in the same way: the one a text, the other one the
text with its line feeds spelled as pairs. -/
structure Lexer.Abreast (text : List Char) (lx lx' : Lexer) : Prop extends lx.SameManner lx' where
  /-- The same is left to read. -/
  rest : lx'.rest = crlf lx.rest
  /-- Both are on the same line. -/
  line : lx'.loc.line = lx.loc.line
  /-- Both are in the same column. -/
  column : lx'.loc.column = lx.loc.column
  /-- Both are behind the same characters. -/
  passed : ∃ passed, text = passed ++ lx.rest ∧ byteLength passed = lx.loc.offset ∧
    byteLength (crlf passed) = lx'.loc.offset

namespace Lexer.Abreast

variable {text : List Char} {lx lx' : Lexer}

theorem ofText (l : Language) (text : List Char) :
    (Lexer.ofText l text).Abreast text (.ofText l (crlf text)) :=
  ⟨⟨rfl, rfl, rfl, rfl⟩, rfl, rfl, rfl, [], rfl, rfl, rfl⟩

theorem place (h : lx.Abreast text lx') : (Likeness.crlf text).place lx.loc lx'.loc := by
  obtain ⟨passed, htext, hbytes, hbytes'⟩ := h.passed
  exact ⟨h.line, h.column, passed, lx.rest, htext, hbytes, hbytes'⟩

theorem leave (h : lx.Abreast text lx') : lx.leave.Abreast text lx'.leave :=
  ⟨⟨h.language, congrArg List.tail h.entered, h.failed, h.slash⟩, h.rest, h.line, h.column, h.passed⟩

theorem follow (h : lx.Abreast text lx') (t : Transition) :
    (lx.follow t).Abreast text (lx'.follow t) := by
  cases t with
  | stay => exact h
  | enter mode =>
    exact ⟨⟨h.language, congrArg (mode :: ·) h.entered, h.failed, h.slash⟩, h.rest, h.line, h.column,
      h.passed⟩
  | leave => exact h.leave

theorem return_notMem (h : lx.Abreast text lx') (htext : '\r' ∉ text) : '\r' ∉ lx.rest := by
  obtain ⟨passed, rfl, -⟩ := h.passed
  exact fun hmem => htext (List.mem_append_right passed hmem)

/-- Behind the same token both have read the same again. -/
theorem pass (h : lx.Abreast text lx') (htext : '\r' ∉ text) (kind : TokenKind) (n : Nat) :
    (lx.pass kind n).Abreast text (lx'.pass kind (crlf (lx.rest.take n)).length) := by
  have htake : lx'.rest.take (crlf (lx.rest.take n)).length = crlf (lx.rest.take n) := by
    rw [h.rest, take_crlf]
  have hreturn : '\r' ∉ lx.rest.take n := fun hmem =>
    h.return_notMem htext (List.mem_of_mem_take hmem)
  obtain ⟨hline, hcolumn⟩ := advance_crlf hreturn h.line h.column
  obtain ⟨passed, hpassed, hbytes, hbytes'⟩ := h.passed
  have hloc : (lx'.pass kind (crlf (lx.rest.take n)).length).loc
      = lx'.loc.advance (crlf (lx.rest.take n)) := congrArg lx'.loc.advance htake
  refine ⟨⟨h.language, h.entered, h.failed, ?_⟩, ?_, ?_, ?_, passed ++ lx.rest.take n, ?_, ?_, ?_⟩
  · -- a slash is told from the lexeme, which is spelled anew
    simp only [Lexer.pass, htake]
    split
    · exact h.slash
    · rw [← Likeness.crlf_text text, regexAllowed_text]
  · show lx'.rest.drop _ = crlf (lx.rest.drop n)
    rw [h.rest, drop_crlf]
  · rw [hloc]
    exact hline
  · rw [hloc]
    exact hcolumn
  · show text = passed ++ lx.rest.take n ++ lx.rest.drop n
    rw [List.append_assoc, List.take_append_drop, ← hpassed]
  · show _ = (lx.loc.advance (lx.rest.take n)).offset
    rw [Location.advance_offset, byteLength_append, hbytes]
  · rw [hloc, Location.advance_offset, crlf_append, byteLength_append, hbytes']

/-- Both recognise the same token. -/
theorem tokenOf (h : lx.Abreast text lx') (htext : '\r' ∉ text) (kind : TokenKind) (n : Nat) :
    (lx.tokenOf kind n).Like (.crlf text)
      (lx'.tokenOf kind (crlf (lx.rest.take n)).length) := by
  have htake : lx'.rest.take (crlf (lx.rest.take n)).length = crlf (lx.rest.take n) := by
    rw [h.rest, take_crlf]
  have hreturn : '\r' ∉ lx.rest.take n := fun hmem =>
    h.return_notMem htext (List.mem_of_mem_take hmem)
  refine ⟨⟨rfl, ?_⟩, ?_, h.place, ?_⟩
  · show String.ofList (lx'.rest.take _) = (Likeness.crlf text).text (String.ofList (lx.rest.take n))
    rw [htake, Likeness.crlf_text]
  · rw [Lexer.tokenOf, Lexer.tokenOf, htake, isLineTerminator_crlf hreturn]
  · have hbehind := (h.pass htext kind n).place.2.2
    rw [stop_tokenOf, stop_tokenOf]
    exact hbehind

/-- Both give the same answer. -/
theorem pull (h : lx.Abreast text lx') (htext : '\r' ∉ text) :
    Pull.Like (.crlf text) (Lexer.Abreast text) lx.pull lx'.pull := by
  unfold Lexer.pull
  rw [h.failed]
  split
  · exact .finished
  · cases hrest : lx.rest with
    | nil =>
      have hrest' : lx'.rest = [] := by rw [h.rest, hrest, crlf_nil]
      rw [hrest']
      exact .finished
    | cons c cs =>
      have hreturn : '\r' ∉ c :: cs := hrest ▸ h.return_notMem htext
      obtain ⟨c', cs', hcs⟩ : ∃ c' cs', crlf (c :: cs) = c' :: cs' := by
        refine List.exists_cons_of_ne_nil fun hnil => ?_
        cases (crlf_eq_iff (by simp)).1 hnil
      have hrest' : lx'.rest = c' :: cs' := by rw [h.rest, hrest, hcs]
      -- both scans go the same way, over lexemes that are spelled anew
      have hscan := scan_crlf lx.language lx.mode lx.previous hcs hreturn
      rw [hrest', h.language, h.mode]
      dsimp only
      rw [scan_congr h.slash]
      generalize scan lx.language lx.mode lx.previous c cs = r at hscan
      generalize scan lx.language lx.mode lx.previous c' cs' = r' at hscan
      cases hscan with
      | error fault => exact .fault rfl h.place
      | @ok s s' hkind htransition hlength =>
        rw [← hrest] at hlength
        dsimp only
        rw [hkind, htransition, hlength]
        exact .token (h.tokenOf htext s.kind s.length)
          ((h.pass htext s.kind s.length).follow s.transition)

end Lexer.Abreast

/-- **Lexers side by side stay side by side.** -/
theorem Likeness.keeps_crlf {text : List Char} (htext : '\r' ∉ text) :
    (crlf text).Keeps (Lexer.Abreast text) where
  place := fun h => h.place
  pull := fun h => h.pull htext
  leave := fun h => h.leave

end ImportScan
