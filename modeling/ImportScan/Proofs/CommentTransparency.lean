import Mathlib.Data.List.DropRight
import ImportScan.Proofs.Findings
import ImportScan.Proofs.Seam

/-!
# Comments are transparent

A comment can be put into a script at any token without a change to what is found there.  The token
before it may go on with the blank that comes first, or even swallow the whole comment, and the blank
behind the comment may be joined by others; in each of these cases the pass gets, by tokens that
nobody asks for, to where it gets without the comment.

## Main definitions

* `Pass.SameSense` — two passes that have seen the same but for blanks and comments, and read on in
  the same way.

## Main results

* `outcomesAgree_of_sameSense` — passes of the same sense with the same to read end in the same way.
* `Pass.exists_skip` — blanks and comments are skipped without a change of sense.
* `Pass.Reaches.exists_insert` — a pass gets over the seam to what is inserted, or behind it.
* `extract_insert_comment` — **a comment can be put into a script at any token**.
-/

namespace ImportScan

/-! ### Passes of the same sense -/

theorem Token.like_of_plain {t t' : Token} (h : t'.plain = t.plain) : t.Like .anywhere t' := by
  have hkind : t'.kind = t.kind := congrArg PlainToken.kind h
  have hlexeme : t'.lexeme = t.lexeme := congrArg PlainToken.lexeme h
  refine ⟨⟨hkind, hlexeme⟩, ?_, trivial, trivial⟩
  rw [Token.isLineTerminator, Token.isLineTerminator, hkind, hlexeme]

/-- Tokens are the same but for their places if they are so without them. -/
theorem forall₂_like_of_plain {ts ts' : List Token} (h : ts'.map Token.plain = ts.map Token.plain) :
    List.Forall₂ (Token.Like .anywhere) ts ts' := by
  have hsame : List.Forall₂ Eq (ts.map Token.plain) (ts'.map Token.plain) := by
    rw [h, List.forall₂_eq_eq_eq]
  rw [List.forall₂_map_left_iff, List.forall₂_map_right_iff] at hsame
  exact hsame.imp fun t t' ht => Token.like_of_plain ht.symm

/-- Two passes have seen the same tokens but for those that do not count, and they read on in the
same way. -/
structure Pass.SameSense (p p' : Pass) : Prop where
  /-- The lexers read on in the same way. -/
  manner : p.lexer.SameManner p'.lexer
  /-- The same is open. -/
  contexts : p'.contexts = p.contexts
  /-- The same tokens have been seen. -/
  tokens : (p'.tokens.filter Token.counts).map Token.plain
    = (p.tokens.filter Token.counts).map Token.plain

namespace Pass.SameSense

variable {p q r : Pass}

theorem refl (p : Pass) : p.SameSense p := ⟨⟨rfl, rfl, rfl, rfl⟩, rfl, rfl⟩

theorem symm (h : p.SameSense q) : q.SameSense p :=
  ⟨⟨h.manner.language.symm, h.manner.entered.symm, h.manner.failed.symm, h.manner.slash.symm⟩,
    h.contexts.symm, h.tokens.symm⟩

theorem trans (h : p.SameSense q) (h' : q.SameSense r) : p.SameSense r :=
  ⟨⟨h'.manner.language.trans h.manner.language, h'.manner.entered.trans h.manner.entered,
    h'.manner.failed.trans h.manner.failed, h'.manner.slash.trans h.manner.slash⟩,
    h'.contexts.trans h.contexts, h'.tokens.trans h.tokens⟩

theorem withRest (p : Pass) (rest : List Char) : p.SameSense (p.withRest rest) :=
  ⟨⟨rfl, rfl, rfl, rfl⟩, rfl, rfl⟩

end Pass.SameSense

/-- **Passes of the same sense with the same to read end in the same way.** -/
theorem outcomesAgree_of_sameSense {l l' : Language} {text text' : List Char} {p p' : Pass}
    (hp : Pass.Reaches (.ofLexer (.ofText l text)) p)
    (hp' : Pass.Reaches (.ofLexer (.ofText l' text')) p') (h : p.SameSense p')
    (hrest : p'.lexer.rest = p.lexer.rest) :
    OutcomesAgree (extract l text).outcome (extract l' text').outcome := by
  have hrun : extract l text = p.run := Pass.run_of_reaches hp
  have hrun' : extract l' text' = p'.run := Pass.run_of_reaches hp'
  -- from here to the end both passes see alike tokens
  obtain ⟨houtcomes, ts, ts', hts, hts', hlike⟩ :=
    Pass.run_like Likeness.keeps_anywhere ⟨⟨h.manner, hrest⟩, trivial⟩ h.contexts
  rw [← hrun] at houtcomes hts
  rw [← hrun'] at houtcomes hts'
  obtain ⟨⟨x, hx⟩, x', hx'⟩ | ⟨e, e', he, he', hlike⟩ := houtcomes
  · have htokens : List.Forall₂ (Token.Like .anywhere)
        ((extract l text).tokens.filter Token.counts)
        ((extract l' text').tokens.filter Token.counts) := by
      rw [hts, hts', List.filter_append, List.filter_append]
      refine List.rel_append (forall₂_like_of_plain h.tokens) (List.rel_filter ?_ hlike)
      intro t t' ht
      dsimp only
      rw [ht.counts]
    rw [hx, hx']
    refine .ok ?_
    rw [eq_ofTokens_of_ok hx, eq_ofTokens_of_ok hx']
    exact findings_ofTokens_eq htokens
  · rw [he, he']
    cases hlike with
    | lex hfault hplace => exact .lex hfault
    | balance hm =>
      exact .balance (hm.expected.trans (congrFun Option.map_id _))
        (hm.found.trans (congrFun Option.map_id _)) (hm.stack.trans (List.map_id _))

/-! ### Skipping blanks and comments -/

/-- Blanks that do not start with a line end are not asked for. -/
theorem Lexer.counts_of_blanks {lx : Lexer} {c : Char} {cs : List Char} (hrest : lx.rest = c :: cs)
    (hc : isLineEnd c = false) (n : Nat) : (lx.tokenOf .whitespace (n + 1)).counts = false := by
  have hlexeme : (lx.tokenOf .whitespace (n + 1)).lexeme = String.ofList (c :: cs.take n) := by
    rw [tokenOf, hrest, List.take_succ_cons]
  -- the first character tells the lexeme from all that end a line
  have hne : ∀ d ds, isLineEnd d = true →
      (lx.tokenOf .whitespace (n + 1)).lexeme ≠ String.ofList (d :: ds) := by
    intro d ds hd hline
    rw [hlexeme, String.ofList_inj] at hline
    rw [(List.cons.inj hline).1, hd] at hc
    cases hc
  have hfeed := hne '\n' [] (by decide)
  have hpair := hne '\r' ['\n'] (by decide)
  have hreturn := hne '\r' [] (by decide)
  have hline := hne '\u2028' [] (by decide)
  have hparagraph := hne '\u2029' [] (by decide)
  have hnone : (lx.tokenOf .whitespace (n + 1)).isLineTerminator = false := by
    simp [Token.isLineTerminator, hfeed, hpair, hreturn, hline, hparagraph]
  rw [Token.counts, hnone]
  rfl

theorem Lexer.counts_of_comment (lx : Lexer) (n : Nat) : (lx.tokenOf .comment n).counts = false := rfl

namespace Pass

variable {p q : Pass} {t : Token} {after : Lexer}

/-- A blank or a comment is taken without a look at what is open. -/
theorem exists_take_of_isTrivia (hpull : p.lexer.pull = .token t after)
    (hk : t.kind.isTrivia = true) : ∃ q, p.take t after = .ok q ∧ q.contexts = p.contexts ∧
      q.lexer = after ∧ after.entered = p.lexer.entered := by
  -- trivia opens and closes nothing
  have hpunctuator : t.kind ≠ .punctuator := by
    intro hkind
    rw [hkind] at hk
    cases hk
  have htemplate : t.kind ≠ .templateLiteral := by
    intro hkind
    rw [hkind] at hk
    cases hk
  have hstarts : t.startsSubstitution = false := by
    rw [Bool.eq_false_iff]
    exact fun hstarts => htemplate (Token.kind_of_startsSubstitution hstarts)
  obtain ⟨q, htake, hcontexts⟩ := exists_take_of_ne hpull hpunctuator hstarts
  refine ⟨q, htake, hcontexts, ?_, ((Lexer.moves_of_pull hpull).of_ne htemplate).2⟩
  rw [(take_spec hpull htake).2, if_neg]
  exact fun hcloses => hpunctuator (ContextStack.closesSubstitution_iff.1 hcloses).1

/-- A token that does not count changes no sense. -/
theorem SameSense.of_take (hpull : p.lexer.pull = .token t after) (htake : p.take t after = .ok q)
    (ht : t.counts = false) : p.SameSense q := by
  have hk : t.kind.isTrivia = true := by
    rw [Token.counts, Bool.or_eq_false_iff] at ht
    simpa using ht.1
  obtain ⟨q', hq', hcontexts, hlexer, hentered⟩ := exists_take_of_isTrivia hpull hk
  obtain rfl := Except.ok.inj (htake.symm.trans hq')
  refine ⟨⟨?_, ?_, ?_, ?_⟩, hcontexts, ?_⟩
  · obtain ⟨c, cs, s, -, -, -, -, rfl⟩ := Lexer.pull_eq_token hpull
    rw [hlexer, Lexer.follow_language]
    rfl
  · rw [hlexer, hentered]
  · obtain ⟨c, cs, s, -, -, -, -, rfl⟩ := Lexer.pull_eq_token hpull
    rw [hlexer, Lexer.follow_failed]
    rfl
  · rw [previous_of_take hpull htake, if_pos hk]
  · rw [tokens_of_take htake, List.filter_append, List.filter_cons_of_neg (by simp [ht]),
      List.filter_nil, List.append_nil]

/-- A script is read, and the pass goes on. -/
structure InScript (p : Pass) : Prop where
  /-- The language has scripts. -/
  language : p.lexer.language = .ecma
  /-- No template is read. -/
  mode : p.lexer.mode = .script
  /-- The lexer has not met an error. -/
  going : p.lexer.failed = false

theorem SameSense.inScript (h : p.SameSense q) (hp : p.InScript) : q.InScript :=
  ⟨h.manner.language.trans hp.language, h.manner.mode.trans hp.mode,
    h.manner.failed.trans hp.going⟩

/-- Blanks and comments are skipped without a change of sense. -/
theorem exists_skip (hp : p.InScript) {kind : TokenKind} {n : Nat}
    (hscans : ScansAs p.lexer.previous p.lexer.rest kind n) (hk : kind.isTrivia = true)
    (hcounts : (p.lexer.tokenOf kind n).counts = false) :
    ∃ q, Reaches p q ∧ p.SameSense q ∧ q.lexer.rest = p.lexer.rest.drop n := by
  obtain ⟨c, cs, hpos, hrest, hscan⟩ := hscans
  have hscan' : scan p.lexer.language p.lexer.mode p.lexer.previous c cs
      = .ok ⟨kind, n, .stay, hpos⟩ := by
    rw [hp.language, hp.mode]
    exact hscan
  have hpull := Lexer.pull_of_scan _ hp.going hrest hscan'
  obtain ⟨q, htake, -⟩ := exists_take_of_isTrivia hpull hk
  refine ⟨q, .single (step?_eq_some_iff.2 ⟨_, _, hpull, htake⟩), .of_take hpull htake hcounts, ?_⟩
  rw [take_rest htake]
  rfl

theorem drop_length_takeWhile (f : Char → Bool) (cs : List Char) :
    cs.drop (cs.takeWhile f).length = cs.dropWhile f := by
  have hsplit : cs.takeWhile f ++ cs.dropWhile f = cs := List.takeWhile_append_dropWhile
  calc cs.drop (cs.takeWhile f).length
      = (cs.takeWhile f ++ cs.dropWhile f).drop (cs.takeWhile f).length := by rw [hsplit]
    _ = cs.dropWhile f := List.drop_left' rfl

/-- All blanks up to the end of the line are skipped. -/
theorem exists_skip_blanks (hp : p.InScript) : ∃ q, Reaches p q ∧ p.SameSense q ∧
    q.lexer.rest = p.lexer.rest.dropWhile fun c => isBlank c && !isLineEnd c := by
  cases hrest : p.lexer.rest with
  | nil => exact ⟨p, .refl, .refl p, hrest⟩
  | cons c cs =>
    cases hc : isBlank c && !isLineEnd c with
    | false => exact ⟨p, .refl, .refl p, by rw [hrest, List.dropWhile_cons_of_neg (by simp [hc])]⟩
    | true =>
      have hblank := hc
      simp only [Bool.and_eq_true, Bool.not_eq_true'] at hblank
      have hscans : ScansAs p.lexer.previous p.lexer.rest .whitespace (blankExtent cs + 1) := by
        rw [hrest]
        exact scansAs_blanks hblank.1 hblank.2
      obtain ⟨q, hreaches, hsense, hleft⟩ :=
        exists_skip hp hscans rfl (Lexer.counts_of_blanks hrest hblank.2 _)
      refine ⟨q, hreaches, hsense, ?_⟩
      rw [hleft, hrest, List.drop_succ_cons, List.dropWhile_cons, if_pos hc]
      exact drop_length_takeWhile _ cs

/-- A comment that ends with its line is skipped. -/
theorem exists_skip_lineComment (hp : p.InScript) {cs : List Char}
    (hrest : p.lexer.rest = '/' :: '/' :: cs) : ∃ q, Reaches p q ∧ p.SameSense q ∧
      q.lexer.rest = cs.dropWhile fun c => !isLineEnd c := by
  have hscans : ScansAs p.lexer.previous p.lexer.rest .comment (lineExtent ('/' :: cs) + 1) := by
    rw [hrest]
    exact scansAs_lineComment cs
  obtain ⟨q, hreaches, hsense, hleft⟩ := exists_skip hp hscans rfl (Lexer.counts_of_comment _ _)
  refine ⟨q, hreaches, hsense, ?_⟩
  rw [hleft, hrest, List.drop_succ_cons]
  exact drop_length_takeWhile _ ('/' :: cs)

/-- A comment with an end of its own is skipped. -/
theorem exists_skip_blockComment (hp : p.InScript) {cs : List Char} {n : Nat}
    (hrest : p.lexer.rest = '/' :: '*' :: cs) (hn : commentExtent? cs = some n) :
    ∃ q, Reaches p q ∧ p.SameSense q ∧ q.lexer.rest = cs.drop n := by
  have hscans : ScansAs p.lexer.previous p.lexer.rest .comment (n + 2) := by
    rw [hrest]
    exact scansAs_blockComment hn
  obtain ⟨q, hreaches, hsense, hleft⟩ := exists_skip hp hscans rfl (Lexer.counts_of_comment _ _)
  refine ⟨q, hreaches, hsense, ?_⟩
  rw [hleft, hrest, List.drop_succ_cons, List.drop_succ_cons]

end Pass

/-! ### Over the seam -/

/-- In a script, only blanks and the comments that end with their line go on with a blank. -/
theorem branch_goesOn {previous : Option Significant} {c : Char} {next : Option Char}
    (h : (branch .ecma previous c next).endsAt ' ' = false) :
    isBlank c = true ∧ isLineEnd c = false ∧ branch .ecma previous c next = .blanks ∨
      c = '/' ∧ next = some '/' ∧ branch .ecma previous c next = .lineComment := by
  have hsign : (signBranch .ecma previous c).endsAt ' ' = true := by
    simp only [signBranch, apply_ite (Branch.endsAt ' ')]
    simp [Branch.endsAt]
  simp only [branch, apply_ite (Branch.endsAt ' '), hsign] at h
  simp [Branch.endsAt] at h
  obtain ⟨hpair, hline, hrest⟩ := h
  cases hblank : isBlank c with
  | true => exact .inl ⟨rfl, hline, by simp [branch, hline, hblank]; exact hpair⟩
  | false =>
    obtain ⟨rfl, hnext⟩ := hrest hblank
    exact .inr ⟨rfl, hnext, by rw [branch_slash, if_pos hnext]⟩

namespace Pass

variable {p q : Pass} {a b r : List Char}

/-- A token that does not go on with the blank is taken with another text behind it. -/
theorem exists_step_of_endsAt (hstep : p.step? = some q) (hmode : q.lexer.mode = .script)
    {w : List Char} (hp : p.lexer.rest = w ++ b) (hq : q.lexer.rest = b)
    (hcode : p.lexer.mode.isCode = true → ∀ c cs, p.lexer.rest = c :: cs →
      (branch p.lexer.language p.lexer.previous c cs.head?).endsAt ' ' = true) :
    (p.withRest (w ++ ' ' :: r)).step? = some (q.withRest (' ' :: r)) := by
  obtain ⟨t, after, hpull, htake⟩ := step?_eq_some_iff.1 hstep
  have hafter : after.rest = [] ++ b := (take_rest htake).symm.trans hq
  refine step?_eq_some_iff.2 ⟨t, _, Lexer.pull_of_known (.inl rfl) hpull hp hafter
    (fun hcode' => .inr (hcode hcode')) ?_ _, take_withRest htake _ _⟩
  -- behind the text of a template no script is read
  intro htemplate hentered
  cases hmode.symm.trans (take_templateText hpull htake htemplate hentered).2

theorem eq_takeWhile_of_step? {f : Char → Bool} {c : Char} {cs w : List Char} {n : Nat}
    (hn : n = (cs.takeWhile f).length + 1) (hb : (c :: cs).drop n = b) (hw : c :: cs = w ++ b) :
    w = c :: cs.takeWhile f ∧ b = cs.dropWhile f := by
  rw [hn, List.drop_succ_cons, drop_length_takeWhile] at hb
  have hsplit : c :: cs = (c :: cs.takeWhile f) ++ b := by
    rw [← hb, List.cons_append, List.takeWhile_append_dropWhile]
  exact ⟨List.append_cancel_right (hw.symm.trans hsplit), hb.symm⟩

/-- Blanks take the one that is inserted with them, up to what follows it. -/
theorem exists_skip_joinedBlanks (hp : p.InScript) {c : Char} (hc : isBlank c = true)
    (hline : isLineEnd c = false) (cs : List Char) (hr : r.head? = some '/') :
    ∃ q, Reaches (p.withRest (c :: cs.takeWhile (fun d => isBlank d && !isLineEnd d) ++ ' ' :: r)) q ∧
      p.SameSense q ∧ q.lexer.rest = r := by
  have hscript := (SameSense.withRest p
    (c :: cs.takeWhile (fun d => isBlank d && !isLineEnd d) ++ ' ' :: r)).inScript hp
  obtain ⟨q, hreaches, hsense, hrest⟩ := exists_skip_blanks hscript
  refine ⟨q, hreaches, (SameSense.withRest p _).trans hsense, ?_⟩
  -- the blanks of both pieces make up one run, which goes up to the comment
  have hpass : ∀ d ∈ c :: cs.takeWhile (fun d => isBlank d && !isLineEnd d),
      (isBlank d && !isLineEnd d) = true := by
    intro d hd
    rcases List.mem_cons.1 hd with rfl | hd
    · rw [hc, hline]
      rfl
    · exact List.mem_takeWhile_imp (p := fun d => isBlank d && !isLineEnd d) hd
  have hstop : r.dropWhile (fun d => isBlank d && !isLineEnd d) = r := by
    obtain ⟨more, rfl⟩ := List.head?_eq_some_iff.1 hr
    rfl
  rw [hrest, Pass.withRest, Lexer.withRest_rest, List.dropWhile_append_of_pos hpass,
    List.dropWhile_cons_of_pos (by decide), hstop]

/-- A comment that ends with its line takes with it all that is inserted on that line. -/
theorem exists_skip_joinedComment (hp : p.InScript) (cs : List Char) :
    ∃ q, Reaches (p.withRest ('/' :: '/' :: cs.takeWhile (fun d => !isLineEnd d) ++ ' ' :: r)) q ∧
      p.SameSense q ∧ q.lexer.rest = (' ' :: r).dropWhile fun d => !isLineEnd d := by
  have hscript := (SameSense.withRest p
    ('/' :: '/' :: cs.takeWhile (fun d => !isLineEnd d) ++ ' ' :: r)).inScript hp
  obtain ⟨q, hreaches, hsense, hrest⟩ := exists_skip_lineComment hscript rfl
  refine ⟨q, hreaches, (SameSense.withRest p _).trans hsense, ?_⟩
  have hpass : ∀ d ∈ cs.takeWhile (fun d => !isLineEnd d), (!isLineEnd d) = true :=
    fun d hd => List.mem_takeWhile_imp (p := fun d => !isLineEnd d) hd
  rw [hrest]
  exact List.dropWhile_append_of_pos hpass

/-- A token that goes on with the blank changes no sense, and it does so with the blank as well.  The
pass gets to what follows the blank, or behind all of it. -/
theorem exists_skip_of_goesOn (hq : q.InScript) (hstep : p.step? = some q) {w : List Char}
    (hp : p.lexer.rest = w ++ b) (hqb : q.lexer.rest = b) (hl : p.lexer.language = .ecma)
    (hmode : p.lexer.mode.isCode = true) {c : Char} {cs : List Char} (hcs : p.lexer.rest = c :: cs)
    (hgoes : (branch .ecma p.lexer.previous c cs.head?).endsAt ' ' = false)
    (hr : r.head? = some '/')
    (hline : (' ' :: r).dropWhile (fun d => !isLineEnd d) = b.dropWhile fun d => !isLineEnd d) :
    ∃ q', Reaches (p.withRest (w ++ ' ' :: r)) q' ∧ q.SameSense q' ∧
      (q'.lexer.rest = r ∨ q'.lexer.rest = b) := by
  obtain ⟨t, after, hpull, htake⟩ := step?_eq_some_iff.1 hstep
  have hafter : after.rest = b := (take_rest htake).symm.trans hqb
  obtain ⟨c', cs', s, -, hcs', hscan, ht, rfl⟩ := Lexer.pull_eq_token hpull
  obtain ⟨rfl, rfl⟩ := List.cons.inj (hcs.symm.trans hcs')
  rw [scan_of_isCode hmode, hl, scanCode_eq] at hscan
  have hdrop : (c :: cs).drop s.length = b := by
    rw [← hcs, ← hafter, Lexer.follow_rest]
    rfl
  obtain ⟨hblank, hnotLine, hbranch⟩ | ⟨rfl, hnext, hbranch⟩ := branch_goesOn hgoes
  · -- blanks: the one that is put in joins them
    rw [hbranch] at hscan
    cases hscan
    obtain ⟨rfl, -⟩ := eq_takeWhile_of_step? rfl hdrop (hcs.symm.trans hp)
    have hsense : p.SameSense q := .of_take hpull htake (ht ▸ Lexer.counts_of_blanks hcs hnotLine _)
    obtain ⟨q', hreaches, hsense', hrest⟩ :=
      exists_skip_joinedBlanks (hsense.symm.inScript hq) hblank hnotLine cs hr
    exact ⟨q', hreaches, hsense.symm.trans hsense', .inl hrest⟩
  · -- a line comment goes on to the end of its line, whatever stands there
    rw [hbranch] at hscan
    cases hscan
    obtain ⟨cs, rfl⟩ := List.head?_eq_some_iff.1 hnext
    obtain ⟨rfl, hb⟩ := eq_takeWhile_of_step? rfl hdrop (hcs.symm.trans hp)
    have hsense : p.SameSense q := .of_take hpull htake (ht ▸ Lexer.counts_of_comment _ _)
    obtain ⟨q', hreaches, hsense', hrest⟩ :=
      exists_skip_joinedComment (hsense.symm.inScript hq) cs
    refine ⟨q', hreaches, hsense.symm.trans hsense', .inr ?_⟩
    rw [hrest, hline, hb, List.dropWhile_idempotent]

/-- **A pass gets over the seam to what is inserted, or behind it.** -/
theorem Reaches.exists_insert (h : Reaches (ofLexer (.ofText .ecma (a ++ b))) p)
    (hb : p.lexer.rest = b) (hmode : p.lexer.mode = .script) (hr : r.head? = some '/')
    (hline : (' ' :: r).dropWhile (fun d => !isLineEnd d) = b.dropWhile fun d => !isLineEnd d) :
    ∃ q, Reaches (ofLexer (.ofText .ecma (a ++ ' ' :: r))) q ∧ p.SameSense q ∧
      (q.lexer.rest = ' ' :: r ∨ q.lexer.rest = r ∨ q.lexer.rest = b) := by
  have hfollows := h.follows
  have hp : p.InScript := ⟨hfollows.language, hmode, hfollows.going⟩
  cases Relation.ReflTransGen.cases_tail h with
  | inl hstart =>
    have hrest : p.lexer.rest = a ++ b := by
      rw [hstart]
      rfl
    obtain rfl : a = [] := List.append_left_eq_self.1 (hrest.symm.trans hb)
    exact ⟨_, .refl, hstart ▸ SameSense.withRest p (' ' :: r), .inl rfl⟩
  | inr hlast =>
    obtain ⟨p₁, hreaches, hstep⟩ := hlast
    -- the last token before the seam is `w`
    obtain ⟨t, after, hpull, htake⟩ := step?_eq_some_iff.1 hstep
    have hrest : p₁.lexer.rest = t.lexeme.toList ++ b := by
      rw [← hb, take_rest htake, Lexer.pull_rest hpull]
    have hreaches : Reaches (ofLexer (.ofText .ecma (a ++ b))) p₁ := hreaches
    obtain ⟨v, hv⟩ := hreaches.exists_rest
    have hv : a ++ b = v ++ p₁.lexer.rest := hv
    have ha : a = v ++ t.lexeme.toList := by
      rw [hrest, ← List.append_assoc] at hv
      exact List.append_cancel_right hv
    have hbefore : Reaches (ofLexer (.ofText .ecma (a ++ ' ' :: r)))
        (p₁.withRest (t.lexeme.toList ++ ' ' :: r)) :=
      hreaches.withRest (.inl rfl) hstep hb rfl hrest r
    have hl : p₁.lexer.language = .ecma := hreaches.follows.language
    by_cases hends : p₁.lexer.mode.isCode = true → ∀ c cs, p₁.lexer.rest = c :: cs →
        (branch p₁.lexer.language p₁.lexer.previous c cs.head?).endsAt ' ' = true
    · exact ⟨_, hbefore.tail (exists_step_of_endsAt hstep hmode hrest hb hends),
        SameSense.withRest p _, .inl rfl⟩
    · push Not at hends
      obtain ⟨hcode, c, cs, hcs, hgoes⟩ := hends
      rw [hl, ne_eq, Bool.not_eq_true] at hgoes
      obtain ⟨q, hq, hsense, hleft⟩ :=
        exists_skip_of_goesOn hp hstep hrest hb hl hcode hcs hgoes hr hline
      exact ⟨q, hbefore.trans hq, hsense, .inr hleft⟩

end Pass

/-! ### A comment is inserted -/

/-- A block comment ends at the first star that a slash follows. -/
theorem commentExtent?_of_no_end {c : List Char} (h : ¬ ['*', '/'] <:+: c) (rest : List Char) :
    commentExtent? (c ++ '*' :: '/' :: rest) = some (c.length + 2) := by
  induction c with
  | nil => rfl
  | cons d c ih =>
    -- the mark cannot start here, for then it would be part of the comment
    have hnot : ¬ (d = '*' ∧ (c ++ '*' :: '/' :: rest).head? = some '/') := by
      rintro ⟨rfl, hhead⟩
      cases c with
      | nil => cases hhead
      | cons e c =>
        cases hhead
        exact h (List.prefix_append ['*', '/'] c).isInfix
    have hrest := ih fun hin => h (hin.trans (List.suffix_cons d c).isInfix)
    rw [List.cons_append, commentExtent?.eq_3, hrest]
    · rfl
    · rintro more rfl hmore
      exact hnot ⟨rfl, by rw [hmore]; rfl⟩

/-- A comment without line ends belongs to its line. -/
theorem dropWhile_comment {c : List Char} (hline : ∀ d ∈ c, isLineEnd d = false) (b : List Char) :
    (' ' :: '/' :: '*' :: (c ++ '*' :: '/' :: ' ' :: b)).dropWhile (fun d => !isLineEnd d)
      = b.dropWhile fun d => !isLineEnd d := by
  have hall : ∀ d ∈ ' ' :: '/' :: '*' :: (c ++ ['*', '/', ' ']), (!isLineEnd d) = true := by
    intro d hd
    simp only [List.mem_cons, List.mem_append, List.not_mem_nil, or_false] at hd
    rcases hd with rfl | rfl | rfl | hd | rfl | rfl | rfl
    all_goals first
      | rfl
      | rw [hline d hd]; rfl
  calc (' ' :: '/' :: '*' :: (c ++ '*' :: '/' :: ' ' :: b)).dropWhile (fun d => !isLineEnd d)
      = (' ' :: '/' :: '*' :: (c ++ ['*', '/', ' ']) ++ b).dropWhile fun d => !isLineEnd d := by simp
    _ = b.dropWhile fun d => !isLineEnd d := List.dropWhile_append_of_pos hall

/-- **A comment can be put into a script at any token.**  The text is cut where a pass gets to with
the lexer reading a script. -/
theorem extract_insert_comment {a b c : List Char} {p : Pass}
    (hp : Pass.Reaches (.ofLexer (.ofText .ecma (a ++ b))) p) (hcut : p.lexer.rest = b)
    (hmode : p.lexer.mode = .script) (hclose : ¬ ['*', '/'] <:+: c)
    (hline : ∀ d ∈ c, isLineEnd d = false) :
    OutcomesAgree (extract .ecma (a ++ b)).outcome
      (extract .ecma (a ++ " /*".toList ++ c ++ "*/ ".toList ++ b)).outcome := by
  have htext : a ++ " /*".toList ++ c ++ "*/ ".toList ++ b
      = a ++ ' ' :: '/' :: '*' :: (c ++ '*' :: '/' :: ' ' :: b) := by
    simp
  have hfollows := hp.follows
  have hscript : p.InScript := ⟨hfollows.language, hmode, hfollows.going⟩
  obtain ⟨q, hq, hsense, hrest⟩ := hp.exists_insert hcut hmode rfl (dropWhile_comment hline b)
  rw [htext]
  -- what is left in front of the comment is skipped, up to the comment
  have hskip : q.lexer.rest = b ∨ ∃ q', Pass.Reaches q q' ∧ q.SameSense q' ∧
      q'.lexer.rest = '/' :: '*' :: (c ++ '*' :: '/' :: ' ' :: b) := by
    rcases hrest with hrest | hrest | hrest
    · obtain ⟨q', hreaches, hsense', hleft⟩ := Pass.exists_skip_blanks (hsense.inScript hscript)
      rw [hrest, List.dropWhile_cons_of_pos (by decide)] at hleft
      exact .inr ⟨q', hreaches, hsense', hleft⟩
    · exact .inr ⟨q, .refl, .refl q, hrest⟩
    · exact .inl hrest
  obtain hrest | ⟨q₁, hq₁, hsense₁, hrest₁⟩ := hskip
  · exact outcomesAgree_of_sameSense hp hq hsense (hrest.trans hcut.symm)
  · have hscript₁ := (hsense.trans hsense₁).inScript hscript
    obtain ⟨q₂, hq₂, hsense₂, hrest₂⟩ :=
      Pass.exists_skip_blockComment hscript₁ hrest₁ (commentExtent?_of_no_end hclose _)
    have hscript₂ := hsense₂.inScript hscript₁
    -- the blank behind the comment joins the blanks that follow
    obtain ⟨q₃, hq₃, hsense₃, hrest₃⟩ := Pass.exists_skip_blanks hscript₂
    obtain ⟨p', hp', hsense', hrest'⟩ := Pass.exists_skip_blanks hscript
    refine outcomesAgree_of_sameSense (hp.trans hp') (((hq.trans hq₁).trans hq₂).trans hq₃) ?_ ?_
    · exact hsense'.symm.trans (((hsense.trans hsense₁).trans hsense₂).trans hsense₃)
    · have hdrop : (c ++ '*' :: '/' :: ' ' :: b).drop (c.length + 2) = ' ' :: b := by simp
      rw [hrest₃, hrest₂, hdrop, hrest', hcut, List.dropWhile_cons_of_pos (by decide)]

/-- A comment in an import, behind the name that is imported. -/
theorem extract_insert_comment_import : ∃ x,
    (extract .ecma "import a /*?*/  from 'b';".toList).outcome = .ok x ∧
      x.findings = ⟨[(.defaultOnly "a", "b")], [], []⟩ := by
  have hcut : ((Pass.ofLexer (.ofText .ecma ("import a".toList ++ " from 'b';".toList))).steps? 3).any
      (fun p => p.lexer.rest == " from 'b';".toList && p.lexer.mode == .script) = true := by
    decide +kernel
  have hwhole : ((Pass.ofLexer (.ofText .ecma ("import a".toList ++ " from 'b';".toList))).steps? 8).any
      (fun p => p.lexer.pull == .finished && p.finish.toOption.any fun x =>
        x.findings == ⟨[(.defaultOnly "a", "b")], [], []⟩) = true := by
    decide +kernel
  obtain ⟨p, hp, hcheck⟩ := (Option.any_eq_true _ _).1 hcut
  obtain ⟨q, hq, hcheck'⟩ := (Option.any_eq_true _ _).1 hwhole
  simp only [Bool.and_eq_true, beq_iff_eq] at hcheck hcheck'
  obtain ⟨x, hx, hfound⟩ := (Option.any_eq_true _ _).1 hcheck'.2
  have hboth := extract_insert_comment (c := ['?']) (Pass.reaches_of_steps? hp) hcheck.1
    hcheck.2 (by decide) (List.forall_mem_singleton.2 (by decide))
  rw [(Pass.outcome_of_steps? hq hcheck'.1 hx).1] at hboth
  generalize hr : (extract .ecma _).outcome = r at hboth
  cases hboth with
  | @ok _ x' hsame => exact ⟨x', hr, hsame.trans (beq_iff_eq.1 hfound)⟩

end ImportScan
