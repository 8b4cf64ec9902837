import ImportScan.Lexer.Scan

/-!
# What a recognised token can be

`scanCode` has a branch for every kind of token, and each of them counts the characters of the token
in its own way.  `CodeToken` lists the branches once; whatever holds of all tokens is then a case
analysis over it, without opening the scanner again.

## Main definitions

* `CodeToken` — the tokens of code, each with its length and with what it does to the modes.

## Main results

* `codeToken_of_scanCode` — a scan of code gives one of them.
* `scan_length_le` — no token reaches beyond the text.
* `CodeToken.transition` — code changes the mode only by opening a template.
* `scanTemplate_cases` — the three kinds of pieces of a template.
-/

namespace ImportScan

/-! ### Extents stay within the text -/

theorem length_takeWhile_le (p : Char → Bool) (cs : List Char) :
    (cs.takeWhile p).length ≤ cs.length :=
  (List.takeWhile_prefix p).length_le

theorem numberExtent_le (hex : Bool) (last : Char) (cs : List Char) :
    numberExtent hex last cs ≤ cs.length := by
  induction cs generalizing last with
  | nil => simp [numberExtent]
  | cons c cs ih =>
    rw [numberExtent]
    split
    · simpa using ih c
    · simp

/-- An extent that goes on `k` characters behind its beginning stays within a bound if the part
behind the beginning does. -/
theorem le_of_map_add {extent? : Option Nat} {k n bound : Nat}
    (h : extent?.map (· + k) = some n) (hle : ∀ m, extent? = some m → m ≤ bound) :
    n ≤ bound + k := by
  obtain ⟨m, hm, rfl⟩ := Option.map_eq_some_iff.1 h
  exact Nat.add_le_add_right (hle m hm) k

theorem commentExtent?_le {cs : List Char} {n : Nat} (h : commentExtent? cs = some n) :
    n ≤ cs.length := by
  fun_induction commentExtent? cs generalizing n with
  | case1 => cases h
  | case2 => cases h; simp
  | case3 c cs _ ih => exact (le_of_map_add h fun _ => ih :)

theorem stringExtent?_le {quote : Char} {cs : List Char} {n : Nat}
    (h : stringExtent? quote cs = some n) : n ≤ cs.length := by
  fun_induction stringExtent? quote cs generalizing n with
  | case1 => cases h
  | case2 => cases h; simp
  | case3 => cases h
  | case4 _ rest ih => exact (le_of_map_add h fun _ => ih :)
  | case5 _ _ rest _ ih => exact (le_of_map_add h fun _ => ih :)
  | case6 => cases h
  | case7 _ cs _ _ _ ih => exact (le_of_map_add h fun _ => ih :)

theorem regexExtent?_le {inClass : Bool} {cs : List Char} {n : Nat}
    (h : regexExtent? inClass cs = some n) : n ≤ cs.length := by
  fun_induction regexExtent? inClass cs generalizing n with
  | case1 => cases h
  | case2 => cases h
  | case3 => cases h
  | case4 _ e rest _ ih => exact (le_of_map_add h fun _ => ih :)
  | case5 _ cs _ ih => exact (le_of_map_add h fun _ => ih :)
  | case6 _ cs _ _ ih => exact (le_of_map_add h fun _ => ih :)
  | case7 _ c cs =>
    -- the slash itself, and the flags behind it
    cases h
    exact Nat.succ_le_succ (length_takeWhile_le isIdentifierPart cs)
  | case8 => cases h
  | case9 _ c cs _ _ _ _ _ ih => exact (le_of_map_add h fun _ => ih :)

theorem templateExtent_le (cs : List Char) : templateExtent cs ≤ cs.length := by
  fun_induction templateExtent cs with
  | case1 => simp
  | case2 => simp
  | case3 c rest ih => simpa using ih
  | case4 => simp
  | case5 c cs _ _ ih => simpa using ih

/-! ### The tokens of code -/

/-- The token that starts with `c` in a text of code, its category, its length and what it does to
the modes: one constructor for each branch of `scanCode`. -/
inductive CodeToken (l : Language) (previous : Option Significant) (c : Char) (cs : List Char) :
    TokenKind → Nat → Transition → Prop where
  /-- A line end of two characters. -/
  | lineEndPair (hc : c = '\r') (hcs : cs.head? = some '\n') :
    CodeToken l previous c cs .whitespace 2 .stay
  /-- A line end of one character. -/
  | lineEnd (hc : isLineEnd c = true) (hpair : ¬ (c = '\r' ∧ cs.head? = some '\n')) :
    CodeToken l previous c cs .whitespace 1 .stay
  /-- Blanks on one line. -/
  | blanks (hc : isBlank c = true) (hline : isLineEnd c = false) :
    CodeToken l previous c cs .whitespace (blankExtent cs + 1) .stay
  /-- A comment that ends with its line. -/
  | lineComment (hc : c = '/') (hcs : cs.head? = some '/') :
    CodeToken l previous c cs .comment (lineExtent cs + 1) .stay
  /-- A comment with an end of its own. -/
  | blockComment (hc : c = '/') (hcs : cs.head? = some '*') (n : Nat)
      (hn : commentExtent? cs.tail = some n) :
    CodeToken l previous c cs .comment (n + 2) .stay
  /-- A preprocessor line. -/
  | directive (hc : c = '#') (hl : l = .c) :
    CodeToken l previous c cs .preprocessor (lineExtent cs + 1) .stay
  /-- A keyword. -/
  | keyword (hc : isIdentifierStart c = true)
      (hword : l.isKeyword (String.ofList (c :: cs.take (wordExtent cs))) = true) :
    CodeToken l previous c cs .keyword (wordExtent cs + 1) .stay
  /-- An identifier. -/
  | identifier (hc : isIdentifierStart c = true)
      (hword : l.isKeyword (String.ofList (c :: cs.take (wordExtent cs))) = false) :
    CodeToken l previous c cs .identifier (wordExtent cs + 1) .stay
  /-- A number. -/
  | number (hc : startsNumber c cs = true) :
    CodeToken l previous c cs .numericLiteral
      (numberExtent (isHexadecimal c cs) c cs + 1) .stay
  /-- A string. -/
  | string (hc : c = '\x22' ∨ c = '\x27') (n : Nat) (hn : stringExtent? c cs = some n) :
    CodeToken l previous c cs .stringLiteral (n + 1) .stay
  /-- The quote that opens a template. -/
  | templateStart (hl : l = .ecma) (hc : c = templateQuote) :
    CodeToken l previous c cs .templateLiteral 1 (.enter .template)
  /-- A regular expression. -/
  | regex (hl : l = .ecma) (hc : c = '/') (hallowed : regexAllowed previous = true) (n : Nat)
      (hn : regexExtent? false cs = some n) :
    CodeToken l previous c cs .regexpLiteral (n + 1) .stay
  /-- A punctuator. -/
  | punctuator (p : String) (hp : p ∈ l.punctuators) (hcs : p.toList <+: c :: cs) :
    CodeToken l previous c cs .punctuator p.toList.length .stay

variable {l : Language} {previous : Option Significant} {c : Char} {cs : List Char}

theorem codeToken_of_scanWord (hc : isIdentifierStart c = true) :
    CodeToken l previous c cs (scanWord l c cs).kind (scanWord l c cs).length
      (scanWord l c cs).transition := by
  dsimp only [scanWord]
  split
  · next hword => exact .keyword hc hword
  · next hword => exact .identifier hc (by simpa only [Bool.not_eq_true] using hword)

theorem codeToken_of_scanPunctuator {s : Scan} (h : scanPunctuator l c cs = .ok s) :
    CodeToken l previous c cs s.kind s.length s.transition := by
  unfold scanPunctuator at h
  split at h
  · next p hp =>
    cases h
    exact .punctuator p (List.mem_of_find?_eq_some hp)
      (List.isPrefixOf_iff_prefix.1 (by simpa using List.find?_some hp))
  · cases h

theorem codeToken_of_scanSign {s : Scan} (h : scanSign l previous c cs = .ok s) :
    CodeToken l previous c cs s.kind s.length s.transition := by
  cases l with
  | c => exact codeToken_of_scanPunctuator h
  | ecma =>
    dsimp only [scanSign] at h
    unfold scanScriptSign at h
    split at h
    · next hc =>
      cases h
      exact .templateStart rfl hc
    · split at h
      · next hc =>
        rw [Bool.and_eq_true, decide_eq_true_eq] at hc
        split at h
        · next n hn =>
          cases h
          exact .regex rfl hc.1 hc.2 n hn
        · cases h
      · exact codeToken_of_scanPunctuator h

/-- A scan of code gives one of the tokens of code. -/
theorem codeToken_of_scanCode {s : Scan} (h : scanCode l previous c cs = .ok s) :
    CodeToken l previous c cs s.kind s.length s.transition := by
  unfold scanCode at h
  simp only [Bool.and_eq_true, decide_eq_true_eq, beq_iff_eq] at h
  -- every branch gives its token at once, and the next one starts where it does not apply
  split at h
  · next hc => cases h; exact .lineEndPair hc.1 hc.2
  rename_i hpair
  split at h
  · next hc => cases h; exact .lineEnd hc hpair
  rename_i hline
  split at h
  · next hc => cases h; exact .blanks hc (by simpa using hline)
  split at h
  · next hc => cases h; exact .lineComment hc.1 hc.2
  split at h
  · next hc =>
    split at h
    · next n hn => cases h; exact .blockComment hc.1 hc.2 n hn
    · cases h
  split at h
  · next hc => cases h; exact .directive hc.1 hc.2
  split at h
  · next hc => cases h; exact codeToken_of_scanWord hc
  split at h
  · next hc => cases h; exact .number hc
  split at h
  · next hc =>
    split at h
    · next n hn => cases h; exact .string (by simpa using hc) n hn
    · cases h
  exact codeToken_of_scanSign h

/-- No token of code reaches beyond the text. -/
theorem CodeToken.length_le {kind : TokenKind} {n : Nat} {t : Transition}
    (h : CodeToken l previous c cs kind n t) : n ≤ cs.length + 1 := by
  cases h with
  | lineEndPair _ hcs =>
    cases cs with
    | nil => cases hcs
    | cons d cs => simp
  | lineEnd => simp
  | blanks => exact Nat.succ_le_succ (length_takeWhile_le _ cs)
  | lineComment => exact Nat.succ_le_succ (length_takeWhile_le _ cs)
  | blockComment _ hcs n hn =>
    cases cs with
    | nil => cases hcs
    | cons d cs => simpa using commentExtent?_le hn
  | directive => exact Nat.succ_le_succ (length_takeWhile_le _ cs)
  | keyword => exact Nat.succ_le_succ (length_takeWhile_le _ cs)
  | identifier => exact Nat.succ_le_succ (length_takeWhile_le _ cs)
  | number => exact Nat.succ_le_succ (numberExtent_le _ c cs)
  | string _ n hn => exact Nat.succ_le_succ (stringExtent?_le hn)
  | templateStart => simp
  | regex _ _ _ n hn => exact Nat.succ_le_succ (regexExtent?_le hn)
  | punctuator p _ hcs => exact hcs.length_le

/-- Code changes the mode only by opening a template, and only then is its token a piece of a
template. -/
theorem CodeToken.transition {kind : TokenKind} {n : Nat} {t : Transition}
    (h : CodeToken l previous c cs kind n t) :
    (t = .stay ∧ kind ≠ .templateLiteral) ∨
      (t = .enter .template ∧ kind = .templateLiteral ∧ n = 1 ∧ c = templateQuote ∧ l = .ecma) := by
  cases h with
  | templateStart hl hc => exact .inr ⟨rfl, rfl, rfl, hc, hl⟩
  | _ => exact .inl ⟨rfl, by simp⟩

/-! ### The tokens of a template -/

/-- The pieces of a template: its closing quote, the start of a substitution, and text that starts
with neither of them. -/
theorem scanTemplate_cases (c : Char) (cs : List Char) :
    (c = templateQuote ∧ (scanTemplate c cs).length = 1 ∧
      (scanTemplate c cs).transition = .leave) ∨
    (opensSubstitution (c :: cs) = true ∧ (scanTemplate c cs).length = 2 ∧
      (scanTemplate c cs).transition = .enter .script) ∨
    (c ≠ templateQuote ∧ opensSubstitution (c :: cs) = false ∧
      (scanTemplate c cs).length = templateExtent (c :: cs) ∧
      (scanTemplate c cs).transition = .stay) := by
  unfold scanTemplate
  split
  · next hq => exact .inl ⟨hq, rfl, rfl⟩
  · next hq =>
    split
    · next hs => exact .inr (.inl ⟨hs, rfl, rfl⟩)
    · next hs => exact .inr (.inr ⟨hq, by simpa using hs, rfl, rfl⟩)

@[simp] theorem scanTemplate_kind (c : Char) (cs : List Char) :
    (scanTemplate c cs).kind = .templateLiteral := by
  unfold scanTemplate
  split
  · rfl
  · split <;> rfl

/-- A substitution starts with a dollar sign and a brace. -/
theorem opensSubstitution_iff {cs : List Char} :
    opensSubstitution cs = true ↔ ∃ rest, cs = '$' :: '\x7b' :: rest := by
  constructor
  · intro h
    unfold opensSubstitution at h
    split at h
    · next rest => exact ⟨rest, rfl⟩
    · cases h
  · rintro ⟨rest, rfl⟩
    rfl

theorem scanTemplate_length_le (c : Char) (cs : List Char) :
    (scanTemplate c cs).length ≤ cs.length + 1 := by
  obtain ⟨-, hlen, -⟩ | ⟨hs, hlen, -⟩ | ⟨-, -, hlen, -⟩ := scanTemplate_cases c cs
  · simp [hlen]
  · obtain ⟨rest, hrest⟩ := opensSubstitution_iff.1 hs
    obtain ⟨-, rfl⟩ := List.cons.inj hrest
    simp [hlen]
  · rw [hlen]
    exact templateExtent_le (c :: cs)

/-! ### Tokens in any mode -/

theorem Mode.eq_template_of_not_isCode {mode : Mode} (h : mode.isCode = false) :
    mode = .template := by
  cases mode with
  | template => rfl
  | script => cases h
  | c => cases h

theorem scan_of_isCode {mode : Mode} (h : mode.isCode = true) :
    scan l mode previous c cs = scanCode l previous c cs := by
  cases mode with
  | template => cases h
  | script => rfl
  | c => rfl

/-- **No token reaches beyond the text**, in whatever mode it is recognised. -/
theorem scan_length_le {mode : Mode} {s : Scan} (h : scan l mode previous c cs = .ok s) :
    s.length ≤ (c :: cs).length := by
  cases hcode : mode.isCode with
  | true => exact (codeToken_of_scanCode (scan_of_isCode hcode ▸ h)).length_le
  | false =>
    obtain rfl := Mode.eq_template_of_not_isCode hcode
    cases h
    exact scanTemplate_length_le c cs

end ImportScan
