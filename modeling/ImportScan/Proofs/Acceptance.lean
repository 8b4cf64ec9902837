import ImportScan.Proofs.ModeStack

/-!
# Which texts a pass accepts

A pass over a text stops at the first token that does not fit what is open, or it complains at the
end that something still is.  What is open is told by one flat stack, fed with nothing but the
tokens that have been pulled.

## Main definitions

* `FlatStack.FirstMisfit` — the first token that does not fit, and what was open before it.

## Main results

* `FlatStack.FirstMisfit.unique` — there is only one.
* `extract_cases` — a pass ends with a lexical error, at the first misfit or at the end of the text.
* `extract_mismatch_iff` — **a pass reports a mismatch exactly for a misfit, and then for the first
  one, or for something that is open at the end**.
-/

namespace ImportScan

namespace FlatStack

variable {s s' : FlatStack} {t t' : Token} {tokens before : List Token}

/-- The token `t` is the first one that does not fit, and `s` is what is open before it. -/
def FirstMisfit (tokens : List Token) (s : FlatStack) (t : Token) : Prop :=
  ∃ before behind, tokens = before ++ t :: behind ∧ feedAll [] before = some s ∧ s.feed t = none

theorem feedAll_of_firstMisfit (h : FirstMisfit tokens s t) : feedAll [] tokens = none := by
  obtain ⟨before, behind, rfl, hbefore, hmisfit⟩ := h
  rw [feedAll_append, hbefore, Option.bind_some, feedAll, hmisfit]
  rfl

/-- There is only one first misfit. -/
theorem FirstMisfit.unique (h : FirstMisfit (before ++ [t]) s' t')
    (hbefore : feedAll [] before = some s) : s' = s ∧ t' = t := by
  obtain ⟨before', behind, htokens, hbefore', hmisfit'⟩ := h
  obtain rfl | ⟨init, last, rfl⟩ := List.eq_nil_or_concat behind
  · obtain ⟨rfl, hlast⟩ := List.append_inj' htokens rfl
    cases hlast
    exact ⟨Option.some.inj (hbefore'.symm.trans hbefore), rfl⟩
  · -- a misfit before the last token would have stopped the tokens before it
    exfalso
    have htokens : before ++ [t] = (before' ++ t' :: init) ++ [last] := by simpa using htokens
    obtain ⟨hsame, -⟩ := List.append_inj' htokens rfl
    have hnone := feedAll_of_firstMisfit ⟨before', init, hsame, hbefore', hmisfit'⟩
    cases hbefore.symm.trans hnone

end FlatStack

open FlatStack (FirstMisfit)

variable {l : Language} {text : List Char}

/-! ### How a pass ends -/

namespace Pass

variable {p : Pass} {t : Token} {after : Lexer}

theorem finish_of_nil (h : p.contexts.openings = []) : ∃ x, p.finish = .ok x := by
  unfold finish
  rw [ContextStack.finish_eq, if_pos h]
  exact ⟨_, rfl⟩

theorem finish_of_ne_nil (h : p.contexts.openings ≠ []) :
    p.finish = .error (.balance (p.contexts.openings.unclosed p.lexer.loc)) := by
  unfold finish
  rw [ContextStack.finish_eq, if_neg h]

/-- A token that does not fit is a misfit of the flat stack, and reported as such. -/
theorem misfit_of_take {m : BalanceMismatch} (hpull : p.lexer.pull = .token t after)
    (htake : p.take t after = .error m) :
    p.contexts.openings.feed t = none ∧ m = p.contexts.openings.misfit t := by
  have hfeed := take_eq_error_iff.1 htake
  rw [entered_eq hpull] at hfeed
  obtain ⟨next, hnext, -⟩ | ⟨herror, hmisfit⟩ := ContextStack.feedsAlike_atToken p.contexts t
  · cases hfeed.symm.trans hnext
  · exact ⟨hmisfit, Except.error.inj (hfeed.symm.trans herror)⟩

end Pass

/-- A pass ends with a lexical error, at the first token that does not fit, or at the end of the
text. -/
theorem extract_cases (l : Language) (text : List Char) :
    (∃ e, (extract l text).outcome = .error (.lex e)) ∨
    (∃ before t s, (extract l text).tokens = before ++ [t] ∧ FlatStack.feedAll [] before = some s ∧
      s.feed t = none ∧ (extract l text).outcome = .error (.balance (s.misfit t))) ∨
    ∃ s, FlatStack.feedAll [] (extract l text).tokens = some s ∧
      (extract l text).lexer.rest = [] ∧
      (extract l text).lexer.loc.offset = byteLength text ∧
      (s = [] → ∃ x, (extract l text).outcome = .ok x) ∧
      (s ≠ [] → (extract l text).outcome
        = .error (.balance (s.unclosed (extract l text).lexer.loc))) := by
  obtain ⟨p, hreaches, hends⟩ := Pass.exists_ends_extract l text
  have htokens := hreaches.feedAll_tokens
  generalize extract l text = r at hends ⊢
  cases hends with
  | finished hpull =>
    obtain ⟨hrest, hoffset⟩ := hreaches.follows.rest_of_finished hpull
    exact .inr (.inr ⟨_, htokens, hrest, hoffset, Pass.finish_of_nil, Pass.finish_of_ne_nil⟩)
  | fault e after hpull => exact .inl ⟨e, rfl⟩
  | mismatch t after m hpull htake =>
    obtain ⟨hmisfit, rfl⟩ := Pass.misfit_of_take hpull htake
    refine .inr (.inl ⟨p.tokens, t, p.contexts.openings, ?_, htokens, hmisfit, rfl⟩)
    simp [PassResult.tokens, Pass.tokens]

/-! ### What a pass accepts -/

/-- A token that is neither a punctuator nor the start of a substitution leaves all that is open as
it is, whatever its text. -/
theorem Pass.exists_take_of_ne {p : Pass} {t : Token} {after : Lexer}
    (hpull : p.lexer.pull = .token t after) (hk : t.kind ≠ .punctuator)
    (hs : t.startsSubstitution = false) :
    ∃ q, p.take t after = .ok q ∧ q.contexts = p.contexts := by
  have hfeed : (p.contexts.atToken t).feed t = .ok p.contexts := by
    rw [ContextStack.atToken, if_neg (by simp [hs])]
    exact ContextStack.feed_of_ne hk
  cases htake : p.take t after with
  | error m =>
    rw [take_eq_error_iff, entered_eq hpull, hfeed] at htake
    cases htake
  | ok q =>
    refine ⟨q, rfl, ?_⟩
    have hspec := (take_spec hpull htake).1
    exact (Except.ok.inj (hfeed.symm.trans hspec)).symm

/-- **A pass reports a mismatch exactly for a misfit, and then for the first one, or for something
that is open at the end.**  Unless the lexer cannot go on, the tokens pulled are fed to one flat
stack.  The first token that does not fit ends the pass and is reported with what is open before it;
if all fit, what they leave open is reported at the end of the text, and the pass succeeds only if
that is nothing.  Other tokens than punctuators and the starts of substitutions are taken without a
look at what is open. -/
theorem extract_mismatch_iff (h : ∀ e, (extract l text).outcome ≠ .error (.lex e)) :
    ((∃ m, (extract l text).outcome = .error (.balance m)) ↔
      (∃ s t, FirstMisfit (extract l text).tokens s t) ∨
        ∃ s, FlatStack.feedAll [] (extract l text).tokens = some s ∧ s ≠ []) ∧
    (∀ s t, FirstMisfit (extract l text).tokens s t →
      (extract l text).tokens.getLast? = some t ∧
        (extract l text).outcome = .error (.balance (s.misfit t))) ∧
    (∀ s, FlatStack.feedAll [] (extract l text).tokens = some s → s ≠ [] →
      (extract l text).outcome = .error (.balance (s.unclosed (extract l text).lexer.loc)) ∧
        (extract l text).lexer.rest = [] ∧
        (extract l text).lexer.loc.offset = byteLength text) ∧
    ((∃ x, (extract l text).outcome = .ok x) ↔
      FlatStack.feedAll [] (extract l text).tokens = some []) ∧
    ∀ (p : Pass) t after, p.lexer.pull = .token t after →
      t.kind ≠ .punctuator → t.is .templateLiteral "$\x7b" = false →
      ∃ q, p.take t after = .ok q ∧ q.contexts = p.contexts := by
  have hother : ∀ (p : Pass) t after, p.lexer.pull = .token t after → t.kind ≠ .punctuator →
      t.is .templateLiteral "$\x7b" = false →
      ∃ q, p.take t after = .ok q ∧ q.contexts = p.contexts :=
    fun p t after hpull hk hs => Pass.exists_take_of_ne hpull hk hs
  obtain ⟨e, he⟩ | ⟨before, t, s, htokens, hbefore, hmisfit, houtcome⟩ |
    ⟨s, htokens, hrest, hoffset, hnil, hne⟩ := extract_cases l text
  · exact absurd he (h e)
  · -- the last token pulled is the misfit
    have hfirst : FirstMisfit (extract l text).tokens s t :=
      ⟨before, [], htokens, hbefore, hmisfit⟩
    have hnone := FlatStack.feedAll_of_firstMisfit hfirst
    refine ⟨⟨fun _ => .inl ⟨s, t, hfirst⟩, fun _ => ⟨_, houtcome⟩⟩, ?_, ?_, ?_, hother⟩
    · intro s' t' hfirst'
      rw [htokens] at hfirst'
      obtain ⟨rfl, rfl⟩ := hfirst'.unique hbefore
      exact ⟨by simp [htokens], houtcome⟩
    · intro s' hs'
      cases hnone.symm.trans hs'
    · rw [hnone, houtcome]
      simp
  · -- all tokens fit, and the flat stack decides at the end
    have hfit : ∀ s' t', ¬ FirstMisfit (extract l text).tokens s' t' := by
      intro s' t' hfirst
      cases htokens.symm.trans (FlatStack.feedAll_of_firstMisfit hfirst)
    refine ⟨⟨?_, ?_⟩, fun s' t' hfirst => absurd hfirst (hfit s' t'), ?_, ?_, hother⟩
    · rintro ⟨m, hm⟩
      refine .inr ⟨s, htokens, fun hs => ?_⟩
      obtain ⟨x, hx⟩ := hnil hs
      cases hx.symm.trans hm
    · rintro (⟨s', t', hfirst⟩ | ⟨s', hs', hs'ne⟩)
      · exact absurd hfirst (hfit s' t')
      · cases htokens.symm.trans hs'
        exact ⟨_, hne hs'ne⟩
    · intro s' hs' hs'ne
      cases htokens.symm.trans hs'
      exact ⟨hne hs'ne, hrest, hoffset⟩
    · rw [htokens]
      constructor
      · rintro ⟨x, hx⟩
        by_cases hs : s = []
        · rw [hs]
        · cases hx.symm.trans (hne hs)
      · intro hs
        exact hnil (Option.some.inj hs)

/-- A closing bracket of the wrong kind inside a substitution. -/
theorem extract_mismatch_in_substitution :
    (∀ e, (extract .ecma "f(`(\x24\x7b[')'+)".toList).outcome ≠ .error (.lex e)) ∧
    ∃ m, (extract .ecma "f(`(\x24\x7b[')'+)".toList).outcome = .error (.balance m) ∧
      m.found = some ")" ∧ m.stack = ["(", "$\x7b", "["] ∧ m.loc.offset = 11 := by
  -- the pass stops at the ninth token
  have hrun : ((Pass.ofLexer (.ofText .ecma "f(`(\x24\x7b[')'+)".toList)).steps? 8).any
      (fun p => p.lexer.pull.token?.any fun next =>
        !(p.take next.1 next.2).isOk && next.1.lexeme == ")" && next.1.loc.offset == 11 &&
          FlatStack.feedAll [] p.tokens
            == some [.bracket .square, .substitution, .bracket .round]) = true := by
    decide +kernel
  obtain ⟨p, hp, hnext⟩ := (Option.any_eq_true _ _).1 hrun
  obtain ⟨⟨t, after⟩, hpull, hcheck⟩ := (Option.any_eq_true _ _).1 hnext
  rw [Pull.token?_eq_some_iff] at hpull
  simp only [Bool.and_eq_true, beq_iff_eq, Bool.not_eq_true'] at hcheck
  obtain ⟨⟨⟨hfails, hlexeme⟩, hoffset⟩, htokens⟩ := hcheck
  cases htake : p.take t after with
  | ok q => simp [htake, Except.isOk, Except.toBool] at hfails
  | error m =>
    have hextract := Pass.extract_eq hp (.mismatch t after m hpull htake)
    have hlex : ∀ e, (extract .ecma "f(`(\x24\x7b[')'+)".toList).outcome ≠ .error (.lex e) := by
      rw [hextract]
      simp
    have hopenings :=
      Option.some.inj ((Pass.reaches_of_steps? hp).feedAll_tokens.symm.trans htokens)
    have hmisfit := (Pass.misfit_of_take hpull htake).1
    rw [hopenings] at hmisfit
    have hfirst : FirstMisfit (extract .ecma "f(`(\x24\x7b[')'+)".toList).tokens
        [.bracket .square, .substitution, .bracket .round] t := by
      rw [hextract]
      exact ⟨p.tokens, [], by simp [PassResult.tokens, Pass.tokens], htokens, hmisfit⟩
    obtain ⟨-, hreported, -⟩ := extract_mismatch_iff hlex
    exact ⟨hlex, _, (hreported _ t hfirst).2, by rw [FlatStack.misfit, hlexeme], rfl, hoffset⟩

end ImportScan
