import ImportScan.Proofs.RecordPlace
import ImportScan.Proofs.SpacedTokens
import ImportScan.Proofs.WordEnd

/-!
# Whole words

The keywords and identifiers of a text are maximal runs of identifier characters.  Where such a run
ends follows from its own scan; where it starts follows from the token before it, for a pass reads
code only behind tokens of code and behind the delimiters of templates.  Behind a number alone a
word may start at once, with a character that no number has.  So the keyword of a statement stands
alone, and it stands in code.

## Main definitions

* `WordsEnd` — no word goes on behind some tokens, unless the last one is a number.
* `WholeWord` — a word between what is around it.
* `Token.StandsAlone` — a token of code with no word around it.

## Main results

* `Pass.Reaches.wordsEnd` — where a pass reads code, no word goes on.
* `extract_wholeWords` — **words are whole words, and statements start with one that stands alone**.
-/

namespace ImportScan

/-- Whether the token is a keyword or an identifier. -/
def Token.isWord (t : Token) : Bool := t.kind == .keyword || t.kind == .identifier

theorem Token.isWord_iff {t : Token} :
    t.isWord = true ↔ t.kind = .keyword ∨ t.kind = .identifier := by
  simp [isWord]

/-- What some tokens spell. -/
def spellTokens (ts : List Token) : List Char := spell (ts.map Token.plain)

theorem spellTokens_concat (ts : List Token) (t : Token) :
    spellTokens (ts ++ [t]) = spellTokens ts ++ t.lexeme.toList := by
  simp [spellTokens, Token.plain]

/-! ### Behind a token -/

/-- A pulled token starts with the first character of the text, and comes from a scan of its lexeme
and what is left.  The mode stays as it is, or the token changes it. -/
theorem Lexer.exists_scan_of_pull {lx after : Lexer} {t : Token}
    (hpull : lx.pull = .token t after) :
    ∃ c cs more s, scan lx.language lx.mode lx.previous c cs = .ok s ∧ s.kind = t.kind ∧
      t.lexeme.toList = c :: more ∧ (c :: cs).take s.length = c :: more ∧
      (c :: cs).drop s.length = after.rest ∧ (s.transition = .stay → after.mode = lx.mode) := by
  obtain ⟨c, cs, s, -, hrest, hscan, rfl, rfl⟩ := pull_eq_token hpull
  obtain ⟨n, hn⟩ := Nat.exists_eq_succ_of_ne_zero (Nat.ne_of_gt s.length_pos)
  refine ⟨c, cs, cs.take n, s, hscan, rfl, ?_, ?_, ?_, ?_⟩
  · rw [tokenOf, String.toList_ofList, hrest, hn, List.take_succ_cons]
  · rw [hn, List.take_succ_cons]
  · rw [follow_rest, pass, hrest]
  · intro hstay
    rw [hstay]
    rfl

/-- A word is a token of code, and the mode stays as it is. -/
theorem Lexer.mode_of_pull {lx after : Lexer} {t : Token} (hpull : lx.pull = .token t after)
    (hword : t.isWord = true) : lx.mode.isCode = true ∧ after.mode = lx.mode := by
  have htemplate : t.kind ≠ .templateLiteral := by
    rcases Token.isWord_iff.1 hword with hk | hk <;> simp [hk]
  obtain ⟨hmode, hentered⟩ := (moves_of_pull hpull).of_ne htemplate
  refine ⟨hmode, ?_⟩
  obtain ⟨c, cs, s, -, -, -, -, rfl⟩ := pull_eq_token hpull
  rw [mode, hentered, follow_language]
  rfl

/-- No word goes on behind some tokens, unless the last one is a number, and then what goes on there
could not stand in the number. -/
def WordsEnd (tokens : List Token) (rest : List Char) : Prop :=
  ¬ SplitsWord (spellTokens tokens) rest ∨
    ∃ u, tokens.getLast? = some u ∧ u.kind = .numericLiteral ∧ rest.head?.any isNumberPart = false

/-- No word goes on behind a pulled token if the lexer reads code before it or behind it. -/
theorem Lexer.wordsEnd_of_pull {lx after : Lexer} {t : Token} (hpull : lx.pull = .token t after)
    (hcode : lx.mode.isCode = true ∨ after.mode.isCode = true) (ts : List Token) :
    WordsEnd (ts ++ [t]) after.rest := by
  obtain ⟨c, cs, more, s, hscan, hkind, hlexeme, htake, hrest, hstay⟩ := exists_scan_of_pull hpull
  by_cases hnumber : t.kind = .numericLiteral
  · -- numbers are tokens of code
    obtain ⟨hmode, -⟩ := (moves_of_pull hpull).of_ne (by simp [hnumber])
    have htoken := codeToken_of_scanCode (scan_of_isCode hmode ▸ hscan)
    refine .inr ⟨t, by simp, hnumber, ?_⟩
    rw [hkind, hnumber] at htoken
    rw [← hrest]
    generalize s.length = n at htoken
    generalize s.transition = transition at htoken
    cases htoken with
    | number => exact head?_drop_numberExtent _ c cs
  · refine .inl ?_
    have hmode : lx.mode.isCode = true ∨ s.transition ≠ .stay := by
      by_cases htransition : s.transition = .stay
      · rw [hstay htransition, or_self] at hcode
        exact .inl hcode
      · exact .inr htransition
    rw [spellTokens_concat, hlexeme, splitsWord_append_iff (List.cons_ne_nil _ _), ← htake, ← hrest]
    exact scan_not_splitsWord hscan (by rwa [hkind]) hmode

/-! ### Behind the tokens of a pass -/

/-- A list that is longer by one element at its end is cut at that element or before it. -/
theorem eq_or_exists_of_concat_eq {α : Type} {as front back : List α} {x y : α}
    (h : as ++ [x] = front ++ y :: back) :
    (as = front ∧ x = y) ∨ ∃ more, as = front ++ y :: more := by
  rcases List.eq_nil_or_concat back with rfl | ⟨more, last, rfl⟩
  · obtain ⟨hfront, hlast⟩ := List.append_inj' h rfl
    exact .inl ⟨hfront, List.singleton_inj.1 hlast⟩
  · rw [List.concat_eq_append, ← List.cons_append, ← List.append_assoc] at h
    exact .inr ⟨more, (List.append_inj' h rfl).1⟩

namespace Pass

variable {p : Pass} {t : Token} {state : LexerState} {before behind : List SeenToken} {lx : Lexer}
  {l : Language} {text : List Char}

/-- Where a pass reads code, no word goes on, unless a number ends there. -/
theorem Reaches.wordsEnd (h : Reaches (ofLexer lx) p) (hcode : p.lexer.mode.isCode = true) :
    WordsEnd p.tokens p.lexer.rest := by
  obtain hstart | ⟨q, -, hstep⟩ := Relation.ReflTransGen.cases_tail h
  · rw [hstart]
    exact .inl (not_splitsWord_nil_left lx.rest)
  · obtain ⟨t, after, hpull, htake⟩ := step?_eq_some_iff.1 hstep
    obtain ⟨-, hlexer, -⟩ := take_eq_ok htake
    rw [tokens_of_take htake, take_rest htake]
    refine Lexer.wordsEnd_of_pull hpull ?_ q.tokens
    cases hcloses : (q.entered after).closesSubstitution t with
    | true =>
      -- the brace is a token of code, although no code comes behind it
      have hkind := (ContextStack.closesSubstitution_iff.1 hcloses).1
      exact .inl ((Lexer.moves_of_pull hpull).of_ne (by simp [hkind])).1
    | false =>
      rw [hlexer, if_neg (by simp [hcloses])] at hcode
      exact .inr hcode

/-- A pass has been wherever it has pulled one of the tokens that it has seen. -/
theorem Reaches.exists_pull (h : Reaches (ofLexer lx) p)
    (hseen : p.seen.reverse = before ++ (t, state) :: behind) :
    ∃ q after, Reaches (ofLexer lx) q ∧ q.tokens = before.map Prod.fst ∧
      q.lexer.pull = .token t after ∧ after.state = state := by
  induction h generalizing behind with
  | refl => simp [ofLexer] at hseen
  | @tail q r hreaches hstep ih =>
    obtain ⟨u, after, hpull, htake⟩ := step?_eq_some_iff.1 hstep
    obtain ⟨-, -, -, -, hrseen⟩ := take_eq_ok htake
    rw [hrseen, List.reverse_cons] at hseen
    rcases eq_or_exists_of_concat_eq hseen with ⟨hbefore, hlast⟩ | ⟨more, hmore⟩
    · cases hlast
      exact ⟨q, after, hreaches, congrArg (List.map Prod.fst) hbefore, hpull, rfl⟩
    · exact ih hmore

/-- The same for the tokens of a whole text, the last of which may not fit. -/
theorem exists_pull_extract (hseen : (extract l text).seen = before ++ (t, state) :: behind) :
    ∃ q after, Reaches (ofLexer (.ofText l text)) q ∧ q.tokens = before.map Prod.fst ∧
      q.lexer.pull = .token t after ∧ after.state = state := by
  obtain ⟨p, hreaches, hends⟩ := exists_ends_extract l text
  generalize extract l text = r at hends hseen
  cases hends with
  | finished hpull => exact hreaches.exists_pull hseen
  | fault e after hpull => exact hreaches.exists_pull hseen
  | mismatch u after m hpull htake =>
    rw [List.reverse_cons] at hseen
    rcases eq_or_exists_of_concat_eq hseen with ⟨hbefore, hlast⟩ | ⟨more, hmore⟩
    · cases hlast
      exact ⟨p, after, hreaches, congrArg (List.map Prod.fst) hbefore, hpull, rfl⟩
    · exact hreaches.exists_pull hmore

end Pass

/-! ### Tokens apart -/

section

variable {l : Language} {text : List Char} {t : Token} {state : LexerState}
  {before behind : List SeenToken}

/-- The tokens of a text tile the text up to some place. -/
theorem exists_tiles_tokens (l : Language) (text : List Char) :
    ∃ stop, Tiles text 0 ((extract l text).tokens.map Token.piece) stop := by
  obtain ⟨p, hreaches, hends⟩ := Pass.exists_ends_extract l text
  have hfollows := hreaches.follows
  generalize extract l text = r at hends
  cases hends with
  | finished hpull => exact ⟨_, hfollows.tiles⟩
  | fault e after hpull => exact ⟨_, hfollows.tiles⟩
  | mismatch t after m hpull htake =>
    obtain ⟨-, -, -, htile⟩ := hfollows.stands.pull hpull
    refine ⟨after.loc.offset, ?_⟩
    have htokens : ((t, after.state) :: p.seen).reverse.map Prod.fst = p.tokens ++ [t] := by
      simp [Pass.tokens]
    rw [PassResult.tokens, htokens, List.map_append]
    exact hfollows.tiles.append htile

/-- No two tokens of a text have anything in common. -/
theorem apart_of_mem_tokens {t u : Token} (ht : t ∈ (extract l text).tokens)
    (hu : u ∈ (extract l text).tokens) (hne : u ≠ t) : u.span.Apart t.span := by
  obtain ⟨stop, htiles⟩ := exists_tiles_tokens l text
  have hspans := htiles.ascends.pairwise_apart
  rw [List.map_map] at hspans
  have hpairs : (extract l text).tokens.Pairwise fun a b => a.span.Apart b.span :=
    List.pairwise_map.1 hspans
  have : Std.Symm fun a b : Token => a.span.Apart b.span := ⟨fun _ _ => Or.symm⟩
  exact hpairs.forall hu ht hne

/-! ### Words -/

/-- A word behind some tokens and before the rest of the text: identifier characters that go on
neither behind the word nor before it, except that a number may end where a word starts that could
not go on with the number. -/
structure WholeWord (passed : List Token) (word rest : List Char) : Prop where
  /-- The first character is one that identifiers start with. -/
  starts : word.head?.any isIdentifierStart = true
  /-- All of them are identifier characters. -/
  parts : ∀ c ∈ word, isIdentifierPart c = true
  /-- The one behind them is none. -/
  behind : rest.head?.any isIdentifierPart = false
  /-- The one before them is none, unless it is that of a number and the first one is neither a
  letter nor a digit of ASCII nor an underscore. -/
  before : (spellTokens passed).getLast?.any isIdentifierPart = false ∨
    ∃ u, passed.getLast? = some u ∧ u.kind = .numericLiteral ∧
      word.head?.any (fun c => c.isAlphanum || c == '_') = false

/-- A word that a lexer pulls where no other word goes on is a whole word. -/
theorem Lexer.wholeWord_of_pull {lx after : Lexer} {passed : List Token}
    (hpull : lx.pull = .token t after) (hword : t.isWord = true)
    (hends : WordsEnd passed lx.rest) : WholeWord passed t.lexeme.toList after.rest := by
  have hkind := Token.isWord_iff.1 hword
  have hnumber : t.kind ≠ .numericLiteral := by rcases hkind with hk | hk <;> simp [hk]
  obtain ⟨hmode, -⟩ := mode_of_pull hpull hword
  obtain ⟨c, cs, more, s, hscan, hskind, hlexeme, htake, hrest, -⟩ := exists_scan_of_pull hpull
  have htoken := codeToken_of_scanCode (scan_of_isCode hmode ▸ hscan)
  obtain ⟨hstart, hparts⟩ := htoken.isWord (hskind ▸ hkind)
  have hbehind := htoken.not_splitsWord (hskind ▸ hnumber)
  rw [htake] at hparts hbehind
  rw [hrest] at hbehind
  rw [← pull_rest hpull, hlexeme, List.cons_append] at hends
  rw [hlexeme]
  refine ⟨hstart, hparts, head?_of_not_splitsWord hbehind (List.cons_ne_nil _ _) hparts, ?_⟩
  rcases hends with hsplit | ⟨u, hu, hukind, hpart⟩
  · exact .inl (getLast?_of_not_splitsWord hsplit (isIdentifierPart_of_start hstart))
  · exact .inr ⟨u, hu, hukind, (Bool.or_eq_false_iff.1 hpart).1⟩

/-! ### Statements -/

/-- A token of code stands alone in a text: there is no word around it, and no other token has
anything in common with it. -/
structure Token.StandsAlone (t : Token) (text : List Char) (seen : List SeenToken) : Prop where
  /-- The lexer has read code there. -/
  code : ∃ state, (t, state) ∈ seen ∧ state.mode.isCode = true
  /-- It stands in the text with no identifier character on either side. -/
  around : ∃ before behind, text = before ++ (t.lexeme.toList ++ behind) ∧
    t.loc.offset = byteLength before ∧ before.getLast?.any isIdentifierPart = false ∧
    behind.head?.any isIdentifierPart = false
  /-- No other token has anything in common with it. -/
  apart : ∀ u ∈ seen.map Prod.fst, u ≠ t → u.span.Apart t.span

/-- A statement starts at a place of a text with a keyword that stands alone. -/
def StatementKind.StartsAlone (kind : StatementKind) (loc : Location) (text : List Char)
    (seen : List SeenToken) : Prop :=
  ∃ first : Token, first.isKeyword kind.keyword = true ∧ first.loc = loc ∧
    first.StandsAlone text seen

/-- The words of a text are whole words of code. -/
theorem wholeWord_of_mem_seen (hseen : (extract l text).seen = before ++ (t, state) :: behind)
    (hword : t.isWord = true) :
    ∃ rest, text = spellTokens (before.map Prod.fst) ++ (t.lexeme.toList ++ rest) ∧
      t.loc.offset = byteLength (spellTokens (before.map Prod.fst)) ∧ state.mode.isCode = true ∧
      WholeWord (before.map Prod.fst) t.lexeme.toList rest := by
  obtain ⟨q, after, hreaches, htokens, hpull, hstate⟩ := Pass.exists_pull_extract hseen
  obtain ⟨hmode, hafter⟩ := Lexer.mode_of_pull hpull hword
  have hwhole := Lexer.wholeWord_of_pull hpull hword (hreaches.wordsEnd hmode)
  have hspell : spellTokens q.tokens ++ q.lexer.rest = text := hreaches.spell_tokens
  obtain ⟨passed, htext, hoffset⟩ := hreaches.follows.stands
  -- the tokens seen so far spell what has been passed
  obtain rfl : passed = spellTokens q.tokens :=
    List.append_cancel_right (htext.symm.trans hspell.symm)
  obtain ⟨-, -, hloc, -⟩ := hreaches.follows.stands.pull hpull
  rw [htokens] at hspell hoffset hwhole
  refine ⟨after.rest, ?_, ?_, ?_, hwhole⟩
  · rw [Lexer.pull_rest hpull, hspell]
  · rw [hloc, hoffset]
  · rw [← hstate, Lexer.state, hafter]
    exact hmode

/-- A token that starts a statement stands alone: no number goes on with the letter that it starts
with. -/
theorem standsAlone_of_ofToken? {kind : StatementKind} (ht : t ∈ (extract l text).tokens)
    (hkind : StatementKind.ofToken? t = some kind) :
    t.StandsAlone text (extract l text).seen := by
  obtain ⟨⟨t, state⟩, hmem, rfl⟩ := List.mem_map.1 ht
  obtain ⟨before, behind, hseen⟩ := List.append_of_mem hmem
  have hword : t.isWord = true := Token.isWord_iff.2 (.inl (StatementKind.kind_of_ofToken? hkind))
  obtain ⟨rest, htext, hoffset, hcode, hwhole⟩ := wholeWord_of_mem_seen hseen hword
  refine ⟨⟨state, hmem, hcode⟩, ⟨_, rest, htext, hoffset, ?_, hwhole.behind⟩, ?_⟩
  · refine hwhole.before.resolve_right ?_
    rintro ⟨u, -, -, hhead⟩
    rw [StatementKind.lexeme_of_ofToken? hkind] at hhead
    cases kind <;> simp [StatementKind.keyword, Char.isAlphanum] at hhead
  · exact fun u hu hne => apart_of_mem_tokens ht hu hne

/-- **Words are whole words, and statements start with one that stands alone.**  Every keyword and
every identifier of a text is pulled from code and is a maximal run of identifier characters, except
that the character before it may be that of a number if the word starts with neither a letter nor a
digit of ASCII nor an underscore.  Every statement, also the one that the end of the text cuts off,
starts with its keyword in code.  No identifier character stands on either side of the keyword, and
no other token has anything in common with it. -/
theorem extract_wholeWords (l : Language) (text : List Char) :
    (∀ before t state behind, (extract l text).seen = before ++ (t, state) :: behind →
      t.isWord = true →
      ∃ rest, text = spellTokens (before.map Prod.fst) ++ (t.lexeme.toList ++ rest) ∧
        t.loc.offset = byteLength (spellTokens (before.map Prod.fst)) ∧
        state.mode.isCode = true ∧ WholeWord (before.map Prod.fst) t.lexeme.toList rest) ∧
    (∀ s ∈ (Collector.idle.feedAll (extract l text).tokens).2,
      s.kind.StartsAlone s.loc text (extract l text).seen) ∧
    ∀ cut ∈ (Collector.idle.feedAll (extract l text).tokens).1.finish.2,
      cut.kind.StartsAlone cut.loc text (extract l text).seen := by
  obtain ⟨hdecomposes, -⟩ := decomposes_feedAll (extract l text).tokens
  refine ⟨fun before t state behind => wholeWord_of_mem_seen, ?_, ?_⟩
  · intro s hs
    obtain ⟨first, body, last, heq, hmem, hfirst, -⟩ := hdecomposes.exists_statement hs
    refine ⟨first, StatementKind.isKeyword_of_ofToken? hfirst, ?_,
      standsAlone_of_ofToken? hmem hfirst⟩
    rw [heq]
    rfl
  · intro cut hcut
    rw [Option.mem_def.1 hcut] at hdecomposes
    obtain ⟨first, hmem, hfirst, hloc⟩ := hdecomposes.exists_first
    exact ⟨first, StatementKind.isKeyword_of_ofToken? hfirst, hloc,
      standsAlone_of_ofToken? hmem hfirst⟩

/-- A word right behind a number, a statement, and one that is cut off. -/
theorem extract_wholeWords_mixed :
    ∃ (text : List Char) (before : List SeenToken) (t : Token) (state : LexerState)
      (behind : List SeenToken) (s : Statement) (cut : OpenStatement),
      (extract .ecma text).seen = before ++ (t, state) :: behind ∧ t.isWord = true ∧
      (∃ rest, (spellTokens (before.map Prod.fst)).getLast?.any isIdentifierPart = true ∧
        WholeWord (before.map Prod.fst) t.lexeme.toList rest) ∧
      (Collector.idle.feedAll (extract .ecma text).tokens).2 = [s] ∧
      s.kind.StartsAlone s.loc text (extract .ecma text).seen ∧
      (Collector.idle.feedAll (extract .ecma text).tokens).1.finish.2 = some cut ∧
      cut.kind.StartsAlone cut.loc text (extract .ecma text).seen := by
  let text : List Char := "1\u00e9;import a;export".toList
  let number : SeenToken := (⟨.numericLiteral, "1", ⟨1, 1, 0⟩⟩, ⟨.script, 0⟩)
  let word : Token := ⟨.identifier, "\u00e9", ⟨1, 2, 1⟩⟩
  -- a number, a word right behind it, one statement and one that is cut off
  have hpass : ((Pass.ofLexer (.ofText .ecma text)).steps? 8).any (fun p =>
      p.lexer.pull == .finished && p.seen.reverse.take 2 == [number, (word, ⟨.script, 0⟩)] &&
        (Collector.idle.feedAll p.tokens).2.length == 1 &&
        (Collector.idle.feedAll p.tokens).1.finish.2.isSome) = true := by
    decide +kernel
  obtain ⟨p, hp, hcheck⟩ := (Option.any_eq_true _ _).1 hpass
  simp only [Bool.and_eq_true, beq_iff_eq] at hcheck
  obtain ⟨⟨⟨hpull, htake⟩, hstatements⟩, hcutOff⟩ := hcheck
  have hresult : extract .ecma text = ⟨p.finish, p.lexer, p.seen.reverse⟩ :=
    Pass.extract_eq hp (.finished hpull)
  have htokens : (extract .ecma text).tokens = p.tokens := by rw [hresult]; rfl
  have hseen : (extract .ecma text).seen
      = [number] ++ (word, ⟨.script, 0⟩) :: p.seen.reverse.drop 2 := by
    have hsplit := (List.take_append_drop 2 p.seen.reverse).symm
    rw [htake] at hsplit
    rw [hresult]
    exact hsplit
  rw [← htokens] at hstatements hcutOff
  obtain ⟨s, hs⟩ := List.length_eq_one_iff.1 hstatements
  obtain ⟨cut, hcut⟩ := Option.isSome_iff_exists.1 hcutOff
  obtain ⟨hwords, hstarts, hends⟩ := extract_wholeWords .ecma text
  obtain ⟨rest, -, -, -, hwhole⟩ := hwords _ _ _ _ hseen rfl
  exact ⟨text, [number], word, ⟨.script, 0⟩, _, s, cut, hseen, rfl,
    ⟨rest, by decide +kernel, hwhole⟩, hs, hstarts s (by simp [hs]), hcut, hends cut hcut⟩

end

end ImportScan
