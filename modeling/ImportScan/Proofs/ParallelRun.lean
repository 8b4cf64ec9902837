import ImportScan.Proofs.Acceptance
import ImportScan.Proofs.Likeness

/-!
# Two passes side by side

Two lexers that correspond, and go on to do so whatever they pull, take two passes through streams of
tokens that are alike.  The brackets do not see any difference, so both passes leave their modes at
the same tokens, and they end in the same way.

## Main definitions

* `Pull.Like`, `Likeness.Keeps` — pulls that are alike, and lexers that stay alike.
* `ExtractionFault.Like` — the same fault on both sides.
* `OutcomesLike` — two passes that both succeed, or fail with the same fault.
* `Lexer.SameManner`, `Lexer.SameAhead` — two lexers that read on in the same way, and that have the
  same to read.

## Main results

* `ContextStack.feed_like` — tokens that are alike do the same to the brackets.
* `Pass.run_like` — **passes side by side take tokens that are alike, and end alike**.
* `Likeness.keeps_sameAhead` — lexers with the same to read stay alike, if the places correspond.
-/

namespace ImportScan

variable {k : Likeness}

/-! ### Faults -/

/-- The same mismatch on both sides, with its signs spelled anew. -/
structure BalanceMismatch.Like (k : Likeness) (m m' : BalanceMismatch) : Prop where
  /-- The same sign was expected. -/
  expected : m'.expected = m.expected.map k.text
  /-- The same lexeme was found. -/
  found : m'.found = m.found.map k.text
  /-- The same was open. -/
  stack : m'.stack = m.stack.map k.text
  /-- The places correspond. -/
  place : k.place m.loc m'.loc

/-- The same fault on both sides. -/
inductive ExtractionFault.Like (k : Likeness) : ExtractionFault → ExtractionFault → Prop where
  /-- The lexers cannot go on. -/
  | lex {e e' : LexError} (hfault : e'.fault = e.fault) (hplace : k.place e.loc e'.loc) :
    Like k (.lex e) (.lex e')
  /-- The brackets do not nest. -/
  | balance {m m' : BalanceMismatch} (hm : m.Like k m') : Like k (.balance m) (.balance m')

/-- Both passes succeed, or both fail with the same fault. -/
def OutcomesLike (k : Likeness) (r r' : PassResult) : Prop :=
  ((∃ x, r.outcome = .ok x) ∧ ∃ x', r'.outcome = .ok x') ∨
    ∃ e e', r.outcome = .error e ∧ r'.outcome = .error e' ∧ e.Like k e'

/-! ### Brackets -/

theorem Bracket.isOneLine_opener (b : Bracket) : isOneLine b.opener = true := by
  cases b <;> decide

theorem Bracket.isOneLine_closer (b : Bracket) : isOneLine b.closer = true := by
  cases b <;> decide

theorem Bracket.ofOpener?_text (k : Likeness) (w : String) : ofOpener? (k.text w) = ofOpener? w := by
  refine congrArg all.find? (funext fun b => ?_)
  rw [Bool.eq_iff_iff, beq_iff_eq, beq_iff_eq, eq_comm, k.text_eq_iff b.isOneLine_opener, eq_comm]

theorem Bracket.ofCloser?_text (k : Likeness) (w : String) : ofCloser? (k.text w) = ofCloser? w := by
  refine congrArg all.find? (funext fun b => ?_)
  rw [Bool.eq_iff_iff, beq_iff_eq, beq_iff_eq, eq_comm, k.text_eq_iff b.isOneLine_closer, eq_comm]

theorem BracketStack.feed_text (s : BracketStack) (k : Likeness) (w : String) :
    s.feed (k.text w) = s.feed w := by
  rw [feed_eq, feed_eq, Bracket.ofOpener?_text, Bracket.ofCloser?_text]

theorem BracketStack.expected_text (s : BracketStack) (k : Likeness) :
    s.expected.map k.text = s.expected := by
  cases s with
  | nil => rfl
  | cons b s => exact congrArg some (k.text_of_isOneLine b.isOneLine_closer)

theorem FlatStack.signs_text (s : FlatStack) (k : Likeness) : s.signs.map k.text = s.signs := by
  have hsign : ∀ o : Opening, isOneLine o.sign = true := by
    intro o
    cases o with
    | bracket b => exact b.isOneLine_opener
    | substitution => decide
  rw [signs, List.map_map]
  exact List.map_congr_left fun o _ => k.text_of_isOneLine (hsign o)

namespace ContextStack

variable {s : ContextStack} {t t' : Token}

/-- All signs that a mismatch shows are the same on both sides, but for the lexeme that is found. -/
theorem mismatch_like {expected found found' : Option String} {loc loc' : Location}
    (hexpected : expected.map k.text = expected) (hfound : found' = found.map k.text)
    (hplace : k.place loc loc') :
    (s.mismatch expected found loc).Like k (s.mismatch expected found' loc') where
  expected := hexpected.symm
  found := hfound
  stack := by
    show s.snapshot = s.snapshot.map k.text
    rw [snapshot_eq, FlatStack.signs_text]
  place := hplace

theorem atToken_like (ht : t.Like k t') : s.atToken t' = s.atToken t := by
  rw [atToken, atToken, Token.startsSubstitution, Token.startsSubstitution, ht.is (by decide)]

theorem closesSubstitution_like (ht : t.Like k t') :
    s.closesSubstitution t' = s.closesSubstitution t := by
  rw [closesSubstitution, closesSubstitution, ht.isPunctuator (by decide)]

/-- Tokens that are alike do the same to the brackets. -/
theorem feed_like (ht : t.Like k t') :
    (∃ next, s.feed t = .ok next ∧ s.feed t' = .ok next) ∨
      ∃ m m', s.feed t = .error m ∧ s.feed t' = .error m' ∧ m.Like k m' := by
  -- closers have one line and are not spelled anew
  have hbrace : k.text Bracket.curly.closer = Bracket.curly.closer :=
    k.text_of_isOneLine (by decide)
  have hfound : some Bracket.curly.closer = (some Bracket.curly.closer).map k.text :=
    congrArg some hbrace.symm
  unfold feed
  rw [closesSubstitution_like ht]
  split
  · rw [pop_eq, pop_eq]
    split
    · exact .inr ⟨_, _, rfl, rfl, mismatch_like rfl hfound ht.place⟩
    · split
      · exact .inl ⟨_, rfl, rfl⟩
      · next level _ _ _ =>
        exact .inr ⟨_, _, rfl, rfl, mismatch_like (level.expected_text k) hfound ht.place⟩
  · rw [observe_eq, observe_eq, ht.kind, ht.lexeme, BracketStack.feed_text]
    split
    · cases s.top.feed t.lexeme with
      | ok brackets => exact .inl ⟨_, rfl, rfl⟩
      | error _ =>
        exact .inr ⟨_, _, rfl, rfl, mismatch_like (s.top.expected_text k) rfl ht.place⟩
    · exact .inl ⟨_, rfl, rfl⟩

end ContextStack

/-! ### Lexers -/

/-- The same answer on both sides; the relation is the one between the lexers behind. -/
inductive Pull.Like (k : Likeness) (S : Lexer → Lexer → Prop) : Pull → Pull → Prop where
  /-- Neither has anything left to read. -/
  | finished : Like k S .finished .finished
  /-- The same token. -/
  | token {t t' : Token} {after after' : Lexer} (ht : t.Like k t') (hafter : S after after') :
    Like k S (.token t after) (.token t' after')
  /-- The same error. -/
  | fault {e e' : LexError} {after after' : Lexer} (hfault : e'.fault = e.fault)
      (hplace : k.place e.loc e'.loc) : Like k S (.fault e after) (.fault e' after')

/-- Lexers that correspond stand at places that do, and they go on to correspond. -/
structure Likeness.Keeps (k : Likeness) (S : Lexer → Lexer → Prop) : Prop where
  /-- The places correspond. -/
  place : ∀ {lx lx'}, S lx lx' → k.place lx.loc lx'.loc
  /-- The next token or error is the same. -/
  pull : ∀ {lx lx'}, S lx lx' → Pull.Like k S lx.pull lx'.pull
  /-- A mode can be left on both sides. -/
  leave : ∀ {lx lx'}, S lx lx' → S lx.leave lx'.leave

/-! ### Passes -/

namespace Pass

variable {S : Lexer → Lexer → Prop} {p p' q : Pass} {t t' : Token} {after after' : Lexer}

/-- A token that one pass takes is taken by the other as well, and both go on alike. -/
theorem take_like (hk : k.Keeps S) (hcontexts : p'.contexts = p.contexts)
    (hpull : p.lexer.pull = .token t after) (hpull' : p'.lexer.pull = .token t' after')
    (ht : t.Like k t') (hafter : S after after') :
    (∃ q q', p.take t after = .ok q ∧ p'.take t' after' = .ok q' ∧ S q.lexer q'.lexer ∧
        q'.contexts = q.contexts) ∨
      ∃ m m', p.take t after = .error m ∧ p'.take t' after' = .error m' ∧ m.Like k m' := by
  -- both stacks are the same when the token is fed
  have hentered : p'.entered after' = p.entered after := by
    rw [entered_eq hpull, entered_eq hpull', hcontexts, ContextStack.atToken_like ht]
  have hcloses := ContextStack.closesSubstitution_like ht (s := p.entered after)
  cases htake : p.take t after with
  | ok q =>
    obtain ⟨hfeed, hlexer, -⟩ := take_eq_ok htake
    obtain ⟨next, hnext, hnext'⟩ | ⟨m, m', hm, -⟩ := ContextStack.feed_like ht (s := p.entered after)
    · obtain rfl := Except.ok.inj (hfeed.symm.trans hnext)
      cases htake' : p'.take t' after' with
      | ok q' =>
        obtain ⟨hfeed', hlexer', -⟩ := take_eq_ok htake'
        rw [hentered] at hfeed' hlexer'
        refine .inl ⟨q, q', rfl, rfl, ?_, Except.ok.inj (hfeed'.symm.trans hnext')⟩
        rw [hlexer, hlexer', hcloses]
        split
        · exact hk.leave hafter
        · exact hafter
      | error m =>
        rw [take_eq_error_iff, hentered] at htake'
        cases htake'.symm.trans hnext'
    · cases hfeed.symm.trans hm
  | error m =>
    have hfeed := take_eq_error_iff.1 htake
    obtain ⟨next, hnext, -⟩ | ⟨e, e', he, he', hlike⟩ :=
      ContextStack.feed_like ht (s := p.entered after)
    · cases hfeed.symm.trans hnext
    · obtain rfl := Except.error.inj (hfeed.symm.trans he)
      refine .inr ⟨_, e', rfl, ?_, hlike⟩
      rw [take_eq_error_iff, hentered]
      exact he'

/-- Both passes complain at the end of the text, or neither does. -/
theorem finish_like (hcontexts : p'.contexts = p.contexts)
    (hplace : k.place p.lexer.loc p'.lexer.loc) :
    ((∃ x, p.finish = .ok x) ∧ ∃ x', p'.finish = .ok x') ∨
      ∃ e e', p.finish = .error e ∧ p'.finish = .error e' ∧ e.Like k e' := by
  by_cases hopen : p.contexts.openings = []
  · exact .inl ⟨finish_of_nil hopen, finish_of_nil (by rw [hcontexts, hopen])⟩
  · refine .inr ⟨_, _, finish_of_ne_nil hopen, finish_of_ne_nil (by rwa [hcontexts]), ?_⟩
    rw [hcontexts]
    have hexpected : ∀ s : FlatStack, (s.head?.map fun o => o.pair.closer).map k.text
        = s.head?.map fun o => o.pair.closer := by
      intro s
      cases s with
      | nil => rfl
      | cons o s => exact congrArg some (k.text_of_isOneLine o.pair.isOneLine_closer)
    exact .balance ⟨(hexpected _).symm, rfl, (FlatStack.signs_text _ k).symm, hplace⟩

/-- **Passes side by side take tokens that are alike, and end alike.** -/
theorem run_like (hk : k.Keeps S) (hlexers : S p.lexer p'.lexer)
    (hcontexts : p'.contexts = p.contexts) :
    OutcomesLike k p.run p'.run ∧
      ∃ ts ts', p.run.tokens = p.tokens ++ ts ∧ p'.run.tokens = p'.tokens ++ ts' ∧
        List.Forall₂ (Token.Like k) ts ts' := by
  -- each pull of one pass has its like in the other
  fun_induction run p generalizing p' with
  | case1 p hpull =>
    have hlike := hk.pull hlexers
    rw [hpull] at hlike
    generalize hpull' : p'.lexer.pull = pulled at hlike
    cases hlike
    rw [run_of_ends (.finished hpull')]
    exact ⟨finish_like hcontexts (hk.place hlexers), [], [], by simp [PassResult.tokens, tokens],
      by simp [PassResult.tokens, tokens], .nil⟩
  | case2 p e after hpull =>
    have hlike := hk.pull hlexers
    rw [hpull] at hlike
    generalize hpull' : p'.lexer.pull = pulled at hlike
    cases hlike with
    | fault hfault hplace =>
      rw [run_of_ends (.fault _ _ hpull')]
      exact ⟨.inr ⟨_, _, rfl, rfl, .lex hfault hplace⟩, [], [], by simp [PassResult.tokens, tokens],
        by simp [PassResult.tokens, tokens], .nil⟩
  | case3 p t after hpull next htake _ ih =>
    have hlike := hk.pull hlexers
    rw [hpull] at hlike
    generalize hpull' : p'.lexer.pull = pulled at hlike
    cases hlike with
    | token ht hafter =>
      obtain ⟨q, q', hq, hq', hlexers', hcontexts'⟩ | ⟨m, m', hm, -⟩ :=
        take_like hk hcontexts hpull hpull' ht hafter
      · obtain rfl := Except.ok.inj (htake.symm.trans hq)
        obtain ⟨houtcomes, ts, ts', hts, hts', hrest⟩ := ih hlexers' hcontexts'
        have hstep : Reaches p' q' := .single (step?_eq_some_iff.2 ⟨_, _, hpull', hq'⟩)
        rw [run_of_reaches hstep]
        refine ⟨houtcomes, t :: ts, _ :: ts', ?_, ?_, .cons ht hrest⟩
        · rw [hts, tokens_of_take htake, List.append_assoc, List.singleton_append]
        · rw [hts', tokens_of_take hq', List.append_assoc, List.singleton_append]
      · cases htake.symm.trans hm
  | case4 p t after hpull m htake =>
    have hlike := hk.pull hlexers
    rw [hpull] at hlike
    generalize hpull' : p'.lexer.pull = pulled at hlike
    cases hlike with
    | token ht hafter =>
      obtain ⟨q, q', hq, -⟩ | ⟨e, e', he, he', hlike⟩ :=
        take_like hk hcontexts hpull hpull' ht hafter
      · cases htake.symm.trans hq
      · obtain rfl := Except.error.inj (htake.symm.trans he)
        rw [run_of_ends (.mismatch _ _ _ hpull' he')]
        exact ⟨.inr ⟨_, _, rfl, rfl, .balance hlike⟩, [t], [_],
          by simp [PassResult.tokens, tokens], by simp [PassResult.tokens, tokens], .cons ht .nil⟩

end Pass

/-! ### Lexers with the same to read -/

theorem Lexer.stop_tokenOf (lx : Lexer) (kind : TokenKind) (n : Nat) :
    (lx.tokenOf kind n).stop = (lx.loc.advance (lx.rest.take n)).offset := by
  simp [Token.stop, Token.bytes, stringBytes, tokenOf]

/-- Texts are spelled in the same way on both sides, and only the places may differ. -/
def Likeness.ofPlaces (place : Location → Location → Prop) (offset : Nat → Nat → Prop)
    (h : ∀ {loc loc'}, place loc loc' → offset loc.offset loc'.offset) : Likeness :=
  { Respelling.same with place, offset, place_offset := h }

/-- Two lexers read on in the same way, whatever they have to read. -/
structure Lexer.SameManner (lx lx' : Lexer) : Prop where
  /-- The language is the same. -/
  language : lx'.language = lx.language
  /-- The same modes have been entered. -/
  entered : lx'.entered = lx.entered
  /-- Both have met an error or neither has. -/
  failed : lx'.failed = lx.failed
  /-- A slash starts the same on both sides. -/
  slash : regexAllowed lx'.previous = regexAllowed lx.previous

theorem Lexer.SameManner.mode {lx lx' : Lexer} (h : lx.SameManner lx') : lx'.mode = lx.mode := by
  rw [Lexer.mode, Lexer.mode, h.entered, h.language]

/-- Two lexers have the same to read, and read it in the same way. -/
structure Lexer.SameAhead (lx lx' : Lexer) : Prop extends lx.SameManner lx' where
  /-- The text that is left is the same. -/
  rest : lx'.rest = lx.rest

/-- Code is scanned with no other look at the token before than whether it allows a regular
expression. -/
theorem scan_congr {previous previous' : Option Significant}
    (h : regexAllowed previous' = regexAllowed previous) (l : Language) (mode : Mode) (c : Char)
    (cs : List Char) : scan l mode previous' c cs = scan l mode previous c cs := by
  have hsign : scanSign l previous' c cs = scanSign l previous c cs := by
    cases l with
    | c => rfl
    | ecma =>
      show scanScriptSign previous' c cs = scanScriptSign previous c cs
      rw [scanScriptSign, scanScriptSign, h]
  have hcode : scanCode l previous' c cs = scanCode l previous c cs := by
    rw [scanCode, scanCode, hsign]
  cases mode with
  | template => rfl
  | script => exact hcode
  | c => exact hcode

namespace Lexer.SameAhead

variable {lx lx' : Lexer}

theorem leave (h : lx.SameAhead lx') : lx.leave.SameAhead lx'.leave :=
  ⟨⟨h.language, congrArg List.tail h.entered, h.failed, h.slash⟩, h.rest⟩

/-- Behind the same token both have the same to read again. -/
theorem follow_pass (h : lx.SameAhead lx') (s : Scan) :
    ((lx.pass s.kind s.length).follow s.transition).SameAhead
      ((lx'.pass s.kind s.length).follow s.transition) := by
  have hpass : (lx.pass s.kind s.length).SameAhead (lx'.pass s.kind s.length) := by
    refine ⟨⟨h.language, h.entered, h.failed, ?_⟩, congrArg (List.drop _) h.rest⟩
    simp only [pass, h.rest]
    split
    · exact h.slash
    · rfl
  cases s.transition with
  | stay => exact hpass
  | enter mode =>
    exact ⟨⟨hpass.language, congrArg (mode :: ·) hpass.entered, hpass.failed, hpass.slash⟩,
      hpass.rest⟩
  | leave => exact hpass.leave

end Lexer.SameAhead

/-- Lexers with the same to read stay alike, if their places go on to correspond. -/
theorem Likeness.keeps_sameAhead {place : Location → Location → Prop} {offset : Nat → Nat → Prop}
    (hoffset : ∀ {loc loc'}, place loc loc' → offset loc.offset loc'.offset)
    (hadvance : ∀ {loc loc'} cs, place loc loc' → place (loc.advance cs) (loc'.advance cs)) :
    (ofPlaces place offset hoffset).Keeps fun lx lx' =>
      lx.SameAhead lx' ∧ place lx.loc lx'.loc where
  place := fun h => h.2
  leave := fun h => ⟨h.1.leave, h.2⟩
  pull := by
    rintro lx lx' ⟨hsame, hplace⟩
    unfold Lexer.pull
    rw [hsame.failed, hsame.rest, hsame.language, hsame.mode]
    split
    · exact .finished
    · cases hrest : lx.rest with
      | nil => exact .finished
      | cons c cs =>
        dsimp only
        rw [scan_congr hsame.slash]
        cases scan lx.language lx.mode lx.previous c cs with
        | error fault => exact .fault rfl hplace
        | ok s =>
          -- the lexemes are the same, and only the places differ
          have hlexeme : (lx'.tokenOf s.kind s.length).lexeme
              = (lx.tokenOf s.kind s.length).lexeme := by
            rw [Lexer.tokenOf, Lexer.tokenOf, hsame.rest]
          have hline : (lx'.tokenOf s.kind s.length).isLineTerminator
              = (lx.tokenOf s.kind s.length).isLineTerminator := by
            rw [Token.isLineTerminator, Token.isLineTerminator, hlexeme]
            rfl
          have hend := hadvance (lx.rest.take s.length) hplace
          refine .token ⟨⟨rfl, hlexeme⟩, hline, hplace, ?_⟩ ⟨hsame.follow_pass s, ?_⟩
          · rw [Lexer.stop_tokenOf, Lexer.stop_tokenOf, hsame.rest]
            exact hoffset hend
          · rw [Lexer.follow_loc, Lexer.follow_loc, Lexer.pass, Lexer.pass, hsame.rest]
            exact hend

end ImportScan
