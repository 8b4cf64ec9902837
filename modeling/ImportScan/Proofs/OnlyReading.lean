import ImportScan.Proofs.ReadBack
import ImportScan.Proofs.TokenShape

/-!
# The only way to read a printed import

A printed import is read as itself only by the statement at its start, since another one would need
another keyword.  Counting characters tells the rest: what is read as some bindings and a specifier
holds at least what is printed of them, and so the statement ends with the semicolon of the text,
its specifier stands in the printed quotes, and there is no room for anything else.

## Main definitions

* `ImportRecord.Reading` — a way to read the printed text as its import.

## Main results

* `exists_tokens_of_scans` — how the tokens of a text start.
* `ImportRecord.IsRead.nonempty_reading` — a printed import is read by the statement at its start.
* `ImportRecord.Reading.lexeme_specifier`, `ImportRecord.Reading.last_eq` — how such a statement
  ends.
* `ImportRecord.Reading.room` — **there is no room for anything but the printed clause**.
-/

namespace ImportScan

open PlainToken (blank keyword name sign string)

/-! ### How a text starts -/

/-- Where a text starts with what is scanned as some tokens, these are the first tokens of a
pass. -/
theorem exists_tokens_of_scans {us : List PlainToken} {rest : List Char} {s : FlatStack}
    (hscans : Scans none us rest) (hfeed : FlatStack.feedPlain [] us = some s) :
    ∃ vs, (extract .ecma (spell us ++ rest)).tokens.map Token.plain = us ++ vs := by
  have hstart : (Pass.ofLexer (.ofText .ecma (spell us ++ rest))).lexer.ReadsCode := ⟨rfl, rfl, rfl⟩
  obtain ⟨q, hreaches, -, -, htokens⟩ := Pass.exists_reaches hstart hscans rfl hfeed
  obtain ⟨ts, hts⟩ := q.exists_run_tokens
  refine ⟨ts.map Token.plain, ?_⟩
  rw [extract, Pass.run_of_reaches hreaches, hts, List.map_append, htokens]
  rfl

theorem StatementKind.ofToken?_import {t : Token} (h : t.isKeyword "import" = true) :
    StatementKind.ofToken? t = some .imports := if_pos h

/-- Tokens that start with the keyword of a statement start with that statement. -/
theorem Decomposes.exists_first_statement {first : Token} {ts : List Token} {ss : List Statement}
    {kind : StatementKind} (h : Decomposes (first :: ts) ss none)
    (hfirst : StatementKind.ofToken? first = some kind) :
    ∃ body last more ss', ts = body ++ last :: more ∧
      ss = Collector.statement kind first body last :: ss' ∧
      (∀ t ∈ body, t.endsStatement = false) ∧ last.endsStatement = true ∧
      Decomposes more ss' none := by
  generalize htokens : first :: ts = tokens at h
  generalize ho : (none : Option OpenStatement) = o at h
  cases h with
  | gap hgap =>
    subst htokens
    cases hfirst.symm.trans (hgap first List.mem_cons_self)
  | cutOff => cases ho
  | @statement between body more first' last kind' ss o hgap hfirst' hbody hlast hrest =>
    cases between with
    | nil =>
      obtain ⟨rfl, rfl⟩ := List.cons.inj htokens
      cases hfirst.symm.trans hfirst'
      subst ho
      exact ⟨body, last, more, ss, rfl, rfl, hbody, hlast, hrest⟩
    | cons t between =>
      obtain ⟨rfl, -⟩ := List.cons.inj htokens
      cases hfirst.symm.trans (hgap first List.mem_cons_self)

theorem Accounts.eq_none {ss : List Statement} {o : Option OpenStatement} {x : Extraction}
    (h : Accounts ss o x) (hx : x.malformed = []) : o = none := by
  induction h with
  | finished => rfl
  | cutOff => cases hx
  | statement _ _ ih => exact ih (List.append_eq_nil_iff.1 hx).2

/-- A statement weighs no more than the tokens among which it is found. -/
theorem Decomposes.weight_le {ts : List Token} {ss : List Statement} {o : Option OpenStatement}
    {p : Char → Bool} (h : Decomposes ts ss o) {s : Statement} (hs : s ∈ ss) :
    weight p s.tokens ≤ weight p ts := by
  induction h with
  | gap => cases hs
  | cutOff => cases hs
  | @statement between body ts first last kind ss o _ _ _ _ _ ih =>
    rcases List.mem_cons.1 hs with rfl | hs
    · simp only [Collector.statement, weight_append, weight_cons, weight_nil]
      omega
    · have hle := ih hs
      simp only [weight_append, weight_cons]
      omega

/-! ### The weight of an import -/

section Weight

variable {p : Char → Bool} {s : Statement} {r : ImportRecord} {first last : Token}
  {body : List Token}

/-- The token that ends a statement stands behind its last string. -/
theorem exists_filter_body {front : List Token} {t : Token} {rest : List Token}
    (hlast : last.endsStatement = true) (ht : t.kind = .stringLiteral)
    (h : (body ++ [last]).filter (fun t => !t.kind.isTrivia) = (front ++ [t]) ++ rest) :
    ∃ rest', body.filter (fun t => !t.kind.isTrivia) = (front ++ [t]) ++ rest' := by
  rw [List.filter_append] at h
  rcases List.append_eq_append_iff.1 h with ⟨more, hfront, hmore⟩ | ⟨rest', hrest, -⟩
  · obtain rfl | ⟨more, u, rfl⟩ := List.eq_nil_or_concat' more
    · exact ⟨[], by simpa using hfront.symm⟩
    · -- the string would be the token that ends the statement
      exfalso
      rw [← List.append_assoc] at hfront
      have hend := (List.append_inj' hfront rfl).2
      obtain rfl := List.singleton_inj.1 hend
      have hmem : t ∈ [last].filter (fun t => !t.kind.isTrivia) := by simp [hmore]
      rw [← List.mem_singleton.1 (List.mem_filter.1 hmem).1] at hlast
      simp [Token.endsStatement, Token.isPunctuator, Token.is, Token.isLineTerminator, ht] at hlast
  · exact ⟨rest', hrest⟩

/-- The tokens with meaning inside an import that is understood. -/
theorem Statement.exists_clause (hs : s = Collector.statement .imports first body last)
    (hfirst : first.isKeyword "import" = true) (hlast : last.endsStatement = true)
    (h : s.toImport = .ok r) :
    ∃ clause mark t rest,
      body.filter (fun t => !t.kind.isTrivia) = clause ++ mark :: t :: rest ∧
      ImportClause clause r.bindings ∧ mark.isKeyword "from" = true ∧ t.kind = .stringLiteral ∧
      Unquotes t.lexeme r.specifier := by
  obtain ⟨clause, mark, t, rest, bindings, specifier, hbody, hclause, hmark, hkind, hspecifier,
    rfl⟩ := (s.toImport_eq_ok_iff r).1 h
  -- the keyword is seen, so that the body stands behind it
  have hvisible : (!first.kind.isTrivia) = true := by
    have hkind : first.kind = .keyword :=
      congrArg PlainToken.kind (Token.isKeyword_iff.1 hfirst)
    rw [hkind]
    rfl
  have hsignificant : s.significant
      = first :: (body ++ [last]).filter (fun t => !t.kind.isTrivia) := by
    rw [hs]
    exact List.filter_cons_of_pos hvisible
  have hfilter : (body ++ [last]).filter (fun t => !t.kind.isTrivia)
      = (clause ++ [mark] ++ [t]) ++ rest := by
    rw [Statement.body, hsignificant] at hbody
    have hinside := (if_pos hfirst).symm.trans hbody
    simpa using hinside
  obtain ⟨rest, hrest⟩ := exists_filter_body hlast hkind hfilter
  exact ⟨clause, mark, t, rest, by simpa using hrest, hclause, hmark, hkind, hspecifier⟩

theorem ImportRecord.countP_esText (hp : p ' ' = false) (r : ImportRecord) :
    r.esText.toList.countP p = "import".toList.countP p + r.bindings.esText.toList.countP p +
      "from".toList.countP p + (['\x27'].countP p + r.specifier.toList.countP p +
        ['\x27'].countP p) + [';'].countP p := by
  rw [ImportRecord.esText_eq, ImportRecord.quotedSpecifier]
  simp [List.countP_cons, hp]
  omega

/-- A statement holds what its import is printed with, but for the words that are printed when a
name stands before a list. -/
theorem Statement.le_weight (hs : s = Collector.statement .imports first body last)
    (hfirst : first.isKeyword "import" = true) (hlast : last.endsStatement = true)
    (h : s.toImport = .ok r) (hp : p ' ' = false) :
    "import".toList.countP p + r.bindings.esText.toList.countP p + "from".toList.countP p +
      r.specifier.toList.countP p ≤ weight p s.tokens + "default as".toList.countP p := by
  obtain ⟨clause, mark, t, rest, hvisible, hclause, hmark, hkind, hspecifier⟩ :=
    Statement.exists_clause hs hfirst hlast h
  have hle := hclause.le_weight_add hp
  have hquoted : r.specifier.toList.countP p ≤ t.lexeme.toList.countP p :=
    (Token.Names.string hkind hspecifier).le_countP
  have htokens : s.tokens = first :: (body ++ [last]) := by
    rw [hs]
    rfl
  have hfilter := weight_filter_le (p := p) (fun t => !t.kind.isTrivia) body
  rw [hvisible, weight_append, weight_cons, weight_cons, countP_lexeme_of_isKeyword hmark]
    at hfilter
  rw [htokens, weight_cons, weight_append, countP_lexeme_of_isKeyword hfirst]
  omega

end Weight

/-! ### The statement at the start -/

/-- A way to read the printed text as its import: the text starts with a statement that is
understood as this import. -/
structure ImportRecord.Reading (r : ImportRecord) where
  /-- The keyword. -/
  first : Token
  /-- What stands inside the statement. -/
  body : List Token
  /-- What ends it. -/
  last : Token
  /-- What stands behind it. -/
  more : List Token
  /-- These are all tokens of the text. -/
  tokens_eq : (extract .ecma r.esText.toList).tokens = first :: (body ++ last :: more)
  /-- The first one is the keyword. -/
  isKeyword_first : first.isKeyword "import" = true
  /-- None of those inside the statement ends it. -/
  endsStatement_body : ∀ t ∈ body, t.endsStatement = false
  /-- The last one does. -/
  endsStatement_last : last.endsStatement = true
  /-- The clause. -/
  clause : List Token
  /-- The word behind the clause. -/
  mark : Token
  /-- The specifier. -/
  specifier : Token
  /-- What stands between the specifier and the end. -/
  rest : List Token
  /-- These are the tokens with meaning inside the statement. -/
  filter_body : body.filter (fun t => !t.kind.isTrivia) = clause ++ mark :: specifier :: rest
  /-- The clause has the bindings of the import. -/
  importClause : ImportClause clause r.bindings
  /-- The word is `from`. -/
  isKeyword_mark : mark.isKeyword "from" = true
  /-- The specifier is a string. -/
  kind_specifier : specifier.kind = .stringLiteral
  /-- It is the specifier of the import. -/
  unquotes : Unquotes specifier.lexeme r.specifier
  /-- The text is accepted. -/
  accepted : ∃ x, (extract .ecma r.esText.toList).outcome = .ok x

theorem spell_tokens_of_ok {text : List Char} {x : Extraction}
    (h : (extract .ecma text).outcome = .ok x) :
    spell ((extract .ecma text).tokens.map Token.plain) = text := by
  obtain ⟨p, hreaches, hpull, -, htokens⟩ := Pass.exists_finished h
  have hrest := (hreaches.follows.rest_of_finished hpull).1
  have hspell : _ = text := hreaches.spell_tokens
  rwa [hrest, List.append_nil, ← htokens] at hspell

/-- Behind the first statement none is read as the import: it would need the letter of another
keyword. -/
theorem ImportRecord.notMem_of_decomposes {r read : ImportRecord} {first last : Token}
    {body more : List Token} {ss : List Statement} {s : Statement} {x : Extraction}
    (houtcome : (extract .ecma r.esText.toList).outcome = .ok x)
    (htokens : (extract .ecma r.esText.toList).tokens = first :: (body ++ last :: more))
    (hfirst : first.isKeyword "import" = true) (hmore : Decomposes more ss none)
    (hkind : s.kind = .imports) (hread : s.toImport = .ok read)
    (hbindings : read.bindings = r.bindings) (hspecifier : read.specifier = r.specifier) :
    s ∉ ss := by
  intro hs
  obtain ⟨first', body', last', heq, -, hfirst', hlast'⟩ := hmore.exists_statement hs
  rw [hkind] at heq hfirst'
  -- the letters p of the text are counted: a second import would need more of them
  have hletter : (fun c => c == 'p') ' ' = false := rfl
  have hle := Statement.le_weight (p := fun c => c == 'p') heq
    (StatementKind.isKeyword_of_ofToken? hfirst') hlast' hread hletter
  have hinside : weight (fun c => c == 'p') s.tokens ≤ _ := hmore.weight_le hs
  have htext : weight (fun c => c == 'p') _ = _ :=
    congrArg (List.countP fun c => c == 'p') (spell_tokens_of_ok houtcome)
  have hwords : "default as".toList.countP (fun c => c == 'p') = 0 ∧
      "import".toList.countP (fun c => c == 'p') = 1 ∧
      "from".toList.countP (fun c => c == 'p') = 0 ∧
      ['\x27'].countP (fun c => c == 'p') = 0 ∧ [';'].countP (fun c => c == 'p') = 0 := by
    decide
  obtain ⟨hdefault, himport, hfrom, hquote, hsemicolon⟩ := hwords
  rw [htokens, weight_cons, weight_append, weight_cons, countP_lexeme_of_isKeyword hfirst,
    r.countP_esText (p := fun c => c == 'p') hletter] at htext
  rw [hbindings, hspecifier] at hle
  omega

/-- If the text is read as its import, the statement is the one at its start. -/
theorem ImportRecord.IsRead.nonempty_reading {r : ImportRecord} (h : r.IsRead) :
    Nonempty r.Reading := by
  obtain ⟨x, read, houtcome, himports, hmalformed, hbindings, hspecifier⟩ := h
  obtain ⟨ss, o, hdecomposes, haccounts, -⟩ := exists_accounts houtcome
  obtain rfl := haccounts.eq_none hmalformed
  obtain ⟨s, hs, hkind, hread⟩ := haccounts.of_mem_imports (r := read) (by simp [himports])
  -- the text starts with the keyword
  obtain ⟨rest, hrest⟩ : ∃ rest, r.esText.toList = spell [keyword "import"] ++ ' ' :: rest := by
    refine ⟨(r.bindings.esText ++ " from " ++ r.quotedSpecifier ++ ";").toList, ?_⟩
    rw [ImportRecord.esText_eq]
    simp [keyword]
  have hlegible : Legible [keyword "import"] (' ' :: rest) := ⟨rfl, rfl, trivial⟩
  have hneutral : FlatStack.feedPlain [] [keyword "import"] = some [] := rfl
  obtain ⟨vs, hvs⟩ := exists_tokens_of_scans (hlegible.scans none) hneutral
  rw [← hrest] at hvs
  obtain ⟨loc, ts, htokens, -⟩ := exists_placed_cons hvs
  have hfirst : ((keyword "import").placed loc).isKeyword "import" = true := rfl
  rw [htokens] at hdecomposes
  obtain ⟨body, last, more, ss', rfl, rfl, hbody, hlast, hmore⟩ :=
    hdecomposes.exists_first_statement (StatementKind.ofToken?_import hfirst)
  have hlater := ImportRecord.notMem_of_decomposes houtcome htokens hfirst hmore hkind hread
    hbindings hspecifier
  have hstart : s = Collector.statement .imports ((keyword "import").placed loc) body last :=
    (List.mem_cons.1 hs).resolve_right hlater
  obtain ⟨clause, mark, t, rest, hvisible, hclause, hmark, hkind, hunquotes⟩ :=
    Statement.exists_clause hstart hfirst hlast hread
  rw [hbindings] at hclause
  rw [hspecifier] at hunquotes
  exact ⟨⟨_, body, last, more, htokens, hfirst, hbody, hlast, clause, mark, t, rest, hvisible,
    hclause, hmark, hkind, hunquotes, x, houtcome⟩⟩

namespace ImportRecord.Reading

variable {r : ImportRecord} {p : Char → Bool}

/-! ### Its tokens -/

theorem isScanned (R : r.Reading) : ∀ t ∈ R.first :: (R.body ++ R.last :: R.more), t.IsScanned := by
  obtain ⟨x, houtcome⟩ := R.accepted
  obtain ⟨p, hreaches, -, -, htokens⟩ := Pass.exists_finished houtcome
  rw [← R.tokens_eq, htokens]
  exact hreaches.isScanned

theorem weight_eq (R : r.Reading) :
    weight p (R.first :: (R.body ++ R.last :: R.more)) = r.esText.toList.countP p := by
  obtain ⟨x, houtcome⟩ := R.accepted
  rw [← R.tokens_eq, weight, spell_tokens_of_ok houtcome]

/-- A printed list starts with its brace. -/
theorem head_clause_of_named (R : r.Reading) {list : List Binding} (h : r.bindings = .named list) :
    ∀ t ∈ R.clause.head?, t.isPunctuator "\x7b" = true := by
  obtain ⟨rest, hrest⟩ : ∃ rest,
      r.esText.toList = spell [keyword "import", blank, sign "\x7b"] ++ ' ' :: rest := by
    refine ⟨(", ".intercalate (list.map Binding.esText) ++ " \x7d from " ++ r.quotedSpecifier
      ++ ";").toList, ?_⟩
    rw [ImportRecord.esText_eq, h]
    simp [Bindings.esText, ImportRecord.braced, keyword, blank, sign]
  have hlegible : Legible [keyword "import", blank, sign "\x7b"] (' ' :: rest) :=
    ⟨rfl, rfl, rfl, rfl, rfl, rfl, trivial⟩
  have hopens : FlatStack.feedPlain [] [keyword "import", blank, sign "\x7b"]
      = some [.bracket .curly] := rfl
  obtain ⟨vs, hvs⟩ := exists_tokens_of_scans (hlegible.scans none) hopens
  rw [← hrest, R.tokens_eq] at hvs
  obtain ⟨loc₀, _, htokens, hblank⟩ := exists_placed_cons hvs
  obtain ⟨-, rfl⟩ := List.cons.inj htokens
  obtain ⟨loc, _, htokens, hbrace⟩ := exists_placed_cons hblank
  obtain ⟨loc', ts, rfl, -⟩ := exists_placed_cons hbrace
  have hfilter := R.filter_body
  generalize R.body = body at htokens hfilter
  -- the first token with meaning inside the statement is the one behind the blank
  cases body with
  | nil => simp at hfilter
  | cons b body =>
    rw [List.cons_append] at htokens
    obtain ⟨rfl, hmore⟩ := List.cons.inj htokens
    rw [List.filter_cons_of_neg Bool.false_ne_true] at hfilter
    cases body with
    | nil => simp at hfilter
    | cons opener body =>
      rw [List.cons_append] at hmore
      obtain ⟨rfl, -⟩ := List.cons.inj hmore
      rw [List.filter_cons_of_pos rfl] at hfilter
      intro t ht
      obtain ⟨ts, hts⟩ := List.head?_eq_some_iff.1 ht
      rw [hts, List.cons_append] at hfilter
      rw [← (List.cons.inj hfilter).1]
      rfl

/-- A clause does not go on behind a name, since a list is printed without a name before it. -/
theorem head_clause (R : r.Reading) :
    ∀ t ∈ R.clause.head?, t.isIdentifier = true → R.clause = [t] := by
  intro t ht hname
  -- a list starts with a sign
  have hbrace : ∀ list, r.bindings = .named list → False := by
    intro list hlist
    have hnot := Token.isIdentifier_of_isPunctuator (R.head_clause_of_named hlist t ht)
    rw [hnot] at hname
    cases hname
  have hclause := R.importClause
  generalize R.clause = clause at hclause ht
  generalize r.bindings = bindings at hclause hbrace
  cases hclause with
  | everything hstar =>
    obtain rfl := Option.some.inj ht
    rw [Token.isIdentifier_of_isPunctuator hstar] at hname
    cases hname
  | defaultOnly => rw [Option.some.inj ht]
  | named => exact (hbrace _ rfl).elim
  | defaultAndNamed => exact (hbrace _ rfl).elim

/-- What stands inside the statement weighs as much as what is printed there, and more if the clause
does, or if something stands behind the specifier. -/
theorem le_weight_body (R : r.Reading) :
    weight p R.clause + ("from".toList.countP p + (R.specifier.lexeme.toList.countP p +
      weight p R.rest)) ≤ weight p R.body := by
  have hfilter := weight_filter_le (p := p) (fun t => !t.kind.isTrivia) R.body
  rwa [R.filter_body, weight_append, weight_cons, weight_cons,
    countP_lexeme_of_isKeyword R.isKeyword_mark] at hfilter

/-! ### Its end -/

/-- The specifier is longer than its text by two quotes. -/
theorem exists_quotes (R : r.Reading) : ∃ mark, isQuoteMark mark = true ∧
    R.specifier.lexeme = String.singleton mark ++ r.specifier ++ String.singleton mark := by
  have hmem : R.specifier ∈ R.body.filter (fun t => !t.kind.isTrivia) := by
    rw [R.filter_body]
    simp
  have hscanned := R.isScanned R.specifier (by simp [(List.mem_filter.1 hmem).1])
  obtain ⟨mark, inner, hmark, hlexeme⟩ := hscanned.isQuoted R.kind_specifier
  have hinner : r.specifier = inner := by
    rw [unquotes_iff.1 R.unquotes, hlexeme, stripQuotes_quoted hmark]
  exact ⟨mark, hmark, by rw [hinner, hlexeme]⟩

/-- The specifier has the quotes with which it is printed. -/
theorem lexeme_specifier (R : r.Reading) : R.specifier.lexeme = r.quotedSpecifier := by
  obtain ⟨mark, hmark, hlexeme⟩ := R.exists_quotes
  by_cases hsingle : mark = '\x27'
  · rw [hlexeme, hsingle]
    rfl
  · -- there would be more of the other quotes than are printed
    exfalso
    have hother : mark = '\x22' ∨ mark = '\x60' := by
      simp only [isQuoteMark, Bool.or_eq_true, beq_iff_eq] at hmark
      tauto
    have hquotes : (mark == ' ') = false ∧ "import".toList.countP (mark == ·) = 0 ∧
        "from".toList.countP (mark == ·) = 0 ∧ ['\x27'].countP (mark == ·) = 0 ∧
        [';'].countP (mark == ·) = 0 := by
      rcases hother with rfl | rfl <;> decide
    obtain ⟨hblank, himport, hfrom, hquote, hsemicolon⟩ := hquotes
    have htotal := R.weight_eq (p := (mark == ·))
    have hbody := R.le_weight_body (p := (mark == ·))
    have hclause := R.importClause.le_weight (p := (mark == ·)) hblank R.head_clause
    rw [weight_cons, weight_append, weight_cons, r.countP_esText (p := (mark == ·)) hblank]
      at htotal
    rw [hlexeme, countP_quoted (p := (mark == ·)) (beq_self_eq_true mark)] at hbody
    omega

/-- The characters that are no blanks: those between the keyword and the end are the printed ones
but for the semicolon. -/
theorem ink_eq (R : r.Reading) : weight isInk R.body + weight isInk (R.last :: R.more)
    = r.bindings.esText.toList.countP isInk + 4 + r.quotedSpecifier.toList.countP isInk + 1 := by
  have htotal := R.weight_eq (p := isInk)
  have hink : "import".toList.countP isInk = 6 ∧ "from".toList.countP isInk = 4 ∧
      ['\x27'].countP isInk = 1 ∧ [';'].countP isInk = 1 := by
    decide
  obtain ⟨himport, hfrom, hquote, hsemicolon⟩ := hink
  have hmark : isInk '\x27' = true := rfl
  have hquoted : r.quotedSpecifier.toList.countP isInk = r.specifier.toList.countP isInk + 2 :=
    countP_quoted hmark r.specifier
  rw [weight_cons, weight_append, countP_lexeme_of_isKeyword R.isKeyword_first,
    r.countP_esText (p := isInk) rfl] at htotal
  omega

/-- All but one of these characters stand between the keyword and the last token. -/
theorem ink_le (R : r.Reading) :
    r.bindings.esText.toList.countP isInk ≤ weight isInk R.clause ∧
      weight isInk R.clause + weight isInk R.rest + weight isInk (R.last :: R.more)
        ≤ r.bindings.esText.toList.countP isInk + 1 := by
  have hbody := R.le_weight_body (p := isInk)
  have hclause := R.importClause.le_weight (p := isInk) rfl R.head_clause
  have hfrom : "from".toList.countP isInk = 4 := by decide
  have hink := R.ink_eq
  rw [R.lexeme_specifier] at hbody
  omega

/-- A text that ends with a quote and a semicolon ends with two characters that are no blanks. -/
theorem eq_semicolon_of_ink {before cs tail : List Char} (h : before ++ tail = cs ++ ['\x27', ';'])
    (htail : tail ≠ []) (hink : tail.countP isInk ≤ 1) : tail = [';'] := by
  obtain rfl | ⟨tail, last, rfl⟩ := List.eq_nil_or_concat' tail
  · exact absurd rfl htail
  · have hsplit : (before ++ tail) ++ [last] = (cs ++ ['\x27']) ++ [';'] := by simpa using h
    obtain ⟨hbefore, hlast⟩ := List.append_inj' hsplit rfl
    obtain rfl | ⟨tail, quote, rfl⟩ := List.eq_nil_or_concat' tail
    · simpa using hlast
    · exfalso
      have hsplit : (before ++ tail) ++ [quote] = cs ++ ['\x27'] := by simpa using hbefore
      obtain ⟨-, hquote⟩ := List.append_inj' hsplit rfl
      obtain rfl := List.singleton_inj.1 hquote
      obtain rfl := List.singleton_inj.1 hlast
      -- the quote and the semicolon would be too much ink for the tail
      have htwo : ['\x27', ';'].countP isInk = 2 := by decide
      rw [List.append_assoc, List.countP_append, List.singleton_append, htwo] at hink
      omega

/-- The last token is the semicolon, and nothing stands behind it. -/
theorem last_eq (R : r.Reading) : R.last.plain = sign ";" ∧ R.more = [] := by
  obtain ⟨x, houtcome⟩ := R.accepted
  obtain ⟨hclause, hink⟩ := R.ink_le
  have hscanned : ∀ t ∈ R.last :: R.more, t.IsScanned := by
    intro t ht
    exact R.isScanned t (by simp [List.mem_cons.1 ht])
  -- the text ends with what these tokens spell
  have htext := spell_tokens_of_ok houtcome
  rw [R.tokens_eq, ← List.cons_append, List.map_append, spell_append] at htext
  have hend : r.esText.toList = (("import " ++ r.bindings.esText ++ " from " ++ "'" ++
      r.specifier).toList) ++ ['\x27', ';'] := by
    rw [ImportRecord.esText_eq, ImportRecord.quotedSpecifier]
    simp
  rw [hend] at htext
  have hlast := (hscanned R.last (by simp)).ne_nil
  have hspell : spell ((R.last :: R.more).map Token.plain)
      = R.last.lexeme.toList ++ spell (R.more.map Token.plain) := by
    rw [List.map_cons, spell_cons]
    rfl
  have hone : weight isInk (R.last :: R.more) ≤ 1 := by omega
  rw [weight, hspell] at hone
  rw [hspell] at htext
  have hsemicolon := eq_semicolon_of_ink htext (List.append_ne_nil_of_left_ne_nil hlast _) hone
  obtain ⟨c, cs, hlexeme⟩ := List.exists_cons_of_ne_nil hlast
  rw [hlexeme, List.cons_append] at hsemicolon
  obtain ⟨rfl, hnil⟩ := List.cons.inj hsemicolon
  obtain ⟨rfl, hmore⟩ := List.append_eq_nil_iff.1 hnil
  constructor
  · have htext : R.last.lexeme = ";" := by
      rw [← String.toList_inj, hlexeme]
      rfl
    have hends := R.endsStatement_last
    rw [Token.endsStatement, Bool.or_eq_true] at hends
    rcases hends with hsign | hline
    · exact Token.isPunctuator_iff.1 hsign
    · simp [Token.isLineTerminator, htext] at hline
  · cases hmores : R.more with
    | nil => rfl
    | cons t more =>
      exfalso
      have ht := (hscanned t (by simp [hmores])).ne_nil
      rw [hmores, List.map_cons, spell_cons] at hmore
      exact ht (List.append_eq_nil_iff.1 hmore).1

/-- There is no room for anything but the printed clause. -/
theorem room (R : r.Reading) :
    weight isInk R.clause ≤ r.bindings.esText.toList.countP isInk ∧ weight isInk R.rest = 0 ∧
      ∀ t ∈ R.body, t.kind.isTrivia = true → t.lexeme.toList.countP isInk = 0 := by
  obtain ⟨hlast, hmore⟩ := R.last_eq
  obtain ⟨hclause, hink⟩ := R.ink_le
  have hsemicolon : weight isInk (R.last :: R.more) = 1 := by
    rw [hmore, weight_cons, countP_lexeme_of_isPunctuator (Token.isPunctuator_iff.2 hlast)]
    rfl
  refine ⟨by omega, by omega, fun t ht htrivia => ?_⟩
  have hfrom : "from".toList.countP isInk = 4 := by decide
  have heq := R.ink_eq
  refine weight_of_filter_le (q := fun t => !t.kind.isTrivia) ?_ t ht (by simp [htrivia])
  rw [R.filter_body, weight_append, weight_cons, weight_cons,
    countP_lexeme_of_isKeyword R.isKeyword_mark, R.lexeme_specifier]
  omega

end ImportRecord.Reading

end ImportScan
