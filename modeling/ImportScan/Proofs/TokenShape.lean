import ImportScan.Proofs.PrintedInk
import ImportScan.Proofs.SpacedTokens

/-!
# The shape of tokens

A token of a script has been scanned somewhere, and that tells what it looks like.  An identifier is
a token by itself, a string stands between quotes, and whatever carries meaning is more than blanks,
but for the text of a template.

## Main definitions

* `Token.IsScanned` — a token that has been scanned from some text.

## Main results

* `Pass.Reaches.isScanned` — the tokens of a pass are scanned.
* `Token.IsScanned.readable`, `Token.IsScanned.isQuoted`, `Token.IsScanned.ink_pos` — **what such
  tokens look like**.
-/

namespace ImportScan

/-- The token is not empty, and it has been scanned from some text unless it is a piece of a
template. -/
structure Token.IsScanned (t : Token) : Prop where
  /-- It is not empty. -/
  ne_nil : t.lexeme.toList ≠ []
  /-- It has been scanned from some text. -/
  scansAs : t.kind ≠ .templateLiteral → ∃ previous rest,
    ScansAs previous (t.lexeme.toList ++ rest) t.kind t.lexeme.toList.length

/-- A pulled token is scanned. -/
theorem Lexer.isScanned_of_pull {lx after : Lexer} {t : Token} (hlanguage : lx.language = .ecma)
    (hpull : lx.pull = .token t after) : t.IsScanned where
  ne_nil := by
    obtain ⟨c, cs, s, -, hrest, -, rfl, -⟩ := pull_eq_token hpull
    have hpos := s.length_pos
    simp only [tokenOf, hrest, String.toList_ofList, ne_eq, List.take_eq_nil_iff, List.cons_ne_nil,
      or_false]
    omega
  scansAs ht := ⟨lx.previous, after.rest, (Lexer.scansAs_of_pull hlanguage hpull ht).1⟩

/-- The tokens of a pass over a script are scanned. -/
theorem Pass.Reaches.isScanned {p : Pass} {text : List Char}
    (h : Reaches (ofLexer (.ofText .ecma text)) p) : ∀ t ∈ p.tokens, t.IsScanned := by
  induction h with
  | refl => simp [tokens, ofLexer]
  | @tail q r hreaches hstep ih =>
    obtain ⟨t, after, hpull, htake⟩ := step?_eq_some_iff.1 hstep
    have hlanguage := (Reaches.follows hreaches).language
    rw [tokens_of_take htake]
    refine List.forall_mem_append.2 ⟨ih, ?_⟩
    simpa using Lexer.isScanned_of_pull hlanguage hpull

/-- The last character of a string is its quote. -/
theorem exists_take_of_stringExtent? {quote : Char} {cs : List Char} {n : Nat}
    (h : stringExtent? quote cs = some n) : ∃ inner, cs.take n = inner ++ [quote] := by
  fun_induction stringExtent? quote cs generalizing n with
  | case1 => cases h
  | case2 cs =>
    cases h
    exact ⟨[], rfl⟩
  | case3 => cases h
  | case4 hne rest ih =>
    obtain ⟨m, hm, rfl⟩ := Option.map_eq_some_iff.1 h
    obtain ⟨inner, hinner⟩ := ih hm
    exact ⟨'\\' :: '\r' :: '\n' :: inner, by simp [hinner]⟩
  | case5 c rest _ _ ih =>
    obtain ⟨m, hm, rfl⟩ := Option.map_eq_some_iff.1 h
    obtain ⟨inner, hinner⟩ := ih hm
    exact ⟨'\\' :: c :: inner, by simp [hinner]⟩
  | case6 => cases h
  | case7 c cs hne hback hline ih =>
    obtain ⟨m, hm, rfl⟩ := Option.map_eq_some_iff.1 h
    obtain ⟨inner, hinner⟩ := ih hm
    exact ⟨c :: inner, by simp [hinner]⟩

namespace Token.IsScanned

variable {t : Token}

theorem ink_pos (h : t.IsScanned) (ht : t.kind ≠ .templateLiteral)
    (hvisible : t.plain.isVisible = true) : 1 ≤ t.lexeme.toList.countP isInk := by
  obtain ⟨previous, rest, hscan⟩ := h.scansAs ht
  obtain ⟨c, cs, hlexeme, hc⟩ := hscan.exists_cons (PlainToken.isVisible_iff.1 hvisible)
  have hink : isInk c = true := by simp [isInk, hc]
  rw [hlexeme, List.countP_cons_of_pos hink]
  omega

/-- An identifier is a token by itself. -/
theorem readable (h : t.IsScanned) (hname : t.isIdentifier = true) : t.plain.Readable := by
  rw [Token.isIdentifier, beq_iff_eq] at hname
  obtain ⟨previous, rest, hscan⟩ := h.scansAs (by simp [hname])
  obtain ⟨c, known, hlexeme, hblank⟩ := hscan.exists_cons (by simp [hname, TokenKind.isTrivia])
  apply PlainToken.readable_of_scansAs
  show ScansAs none t.lexeme.toList t.kind t.lexeme.toList.length
  obtain ⟨c', cs, hpos, htext, hscan⟩ := hscan
  have htoken := codeToken_of_scanCode hscan
  dsimp only at htoken
  rw [hlexeme] at htoken ⊢
  rw [hlexeme, List.cons_append] at htext
  obtain ⟨rfl, rfl⟩ := List.cons.inj htext
  rw [hname] at htoken ⊢
  generalize hn : (c :: known).length = n at htoken
  generalize htransition : Transition.stay = transition at htoken
  cases htoken with
  | identifier hc hword =>
    -- the word ends with the token
    have hextent : wordExtent (known ++ rest) = known.length := by simpa using hn.symm
    have hall : wordExtent known = known.length := by
      by_contra hne
      rw [wordExtent] at hne
      rw [wordExtent, List.takeWhile_append, if_neg hne] at hextent
      exact hne hextent
    have hself : ScansAs none (c :: known) (scanWord .ecma c known).kind (wordExtent known + 1) :=
      scansAs_word hblank hc
    rw [hextent, List.take_left' rfl] at hword
    have hkind : (scanWord .ecma c known).kind = .identifier := by
      simp only [scanWord, hall, List.take_length, hword, Bool.false_eq_true, if_false]
    rw [hall, hkind] at hself
    rwa [hextent]

/-- A string stands between quotes. -/
theorem isQuoted (h : t.IsScanned) : t.IsQuoted := by
  intro hkind
  obtain ⟨previous, rest, c, cs, hpos, htext, hscan⟩ := h.scansAs (by simp [hkind])
  have htoken := codeToken_of_scanCode hscan
  dsimp only at htoken
  rw [hkind] at htoken
  generalize hn : t.lexeme.toList.length = n at htoken
  generalize htransition : Transition.stay = transition at htoken
  cases htoken with
  | string hc m hm =>
    obtain ⟨inner, hinner⟩ := exists_take_of_stringExtent? hm
    have htake : (t.lexeme.toList ++ rest).take (m + 1) = t.lexeme.toList := List.take_left' hn
    have hlexeme : t.lexeme.toList = c :: (inner ++ [c]) := by
      rw [← htake, htext, List.take_succ_cons, hinner]
    refine ⟨c, String.ofList inner, ?_, ?_⟩
    · rcases hc with rfl | rfl <;> rfl
    · rw [← String.toList_inj, hlexeme]
      simp

end Token.IsScanned

end ImportScan
