import ImportScan.Proofs.PassRun

/-!
# The stack of modes

Each token moves the lexer between its modes in one of five ways.  The context stack is told of a
substitution by comparing the depth of the modes before and behind a token; this is right because
entering code is one of the five ways, and the token of that one is the start of a substitution.

## Main definitions

* `Lexer.Moves` — the five ways.

## Main results

* `Lexer.moves_of_pull` — a pull moves the lexer in one of them.
* `Pass.entered_eq` — **a substitution is noticed exactly at the token that starts it**.
* `Pass.take_spec` — what the step for a token does to the open brackets and to the lexer.
* `Pass.Reaches.feedAll_tokens` — wherever a pass gets to, what is open there is what one flat stack
  holds behind the tokens seen.
-/

namespace ImportScan

namespace Lexer

variable {lx after : Lexer} {t : Token}

/-- How the token `t` moves a lexer between its modes. -/
inductive Moves (lx : Lexer) (t : Token) (after : Lexer) : Prop where
  /-- A token of code. -/
  | code (hmode : lx.mode.isCode = true) (hkind : t.kind ≠ .templateLiteral)
      (hentered : after.entered = lx.entered)
  /-- The opening quote of a template. -/
  | openTemplate (hmode : lx.mode.isCode = true) (hlanguage : lx.language = .ecma)
      (hkind : t.kind = .templateLiteral) (hstarts : t.startsSubstitution = false)
      (hentered : after.entered = .template :: lx.entered)
  /-- The closing quote of a template. -/
  | closeTemplate (hmode : lx.mode = .template) (hkind : t.kind = .templateLiteral)
      (hstarts : t.startsSubstitution = false) (hentered : after.entered = lx.entered.tail)
  /-- The start of a substitution. -/
  | openSubstitution (hmode : lx.mode = .template) (hstarts : t.startsSubstitution = true)
      (hentered : after.entered = .script :: lx.entered)
  /-- The text of a template. -/
  | templateText (hmode : lx.mode = .template) (hkind : t.kind = .templateLiteral)
      (hstarts : t.startsSubstitution = false) (hentered : after.entered = lx.entered)

@[simp] theorem follow_stay_entered (lx : Lexer) : (lx.follow .stay).entered = lx.entered := rfl

@[simp] theorem follow_enter_entered (lx : Lexer) (mode : Mode) :
    (lx.follow (.enter mode)).entered = mode :: lx.entered := rfl

@[simp] theorem follow_leave_entered (lx : Lexer) :
    (lx.follow .leave).entered = lx.entered.tail := rfl

@[simp] theorem pass_entered (lx : Lexer) (kind : TokenKind) (n : Nat) :
    (lx.pass kind n).entered = lx.entered := rfl

theorem startsSubstitution_tokenOf {kind : TokenKind} {n : Nat} :
    (lx.tokenOf kind n).startsSubstitution = true ↔
      kind = .templateLiteral ∧ lx.rest.take n = ['$', '\x7b'] := by
  have hsign : ContextStack.substitutionOpener = String.ofList ['$', '\x7b'] := rfl
  simp only [Token.startsSubstitution, Token.is, tokenOf, hsign, Bool.and_eq_true, beq_iff_eq,
    String.ofList_inj]

/-- A pull moves the lexer in one of the five ways. -/
theorem moves_of_pull (h : lx.pull = .token t after) : lx.Moves t after := by
  obtain ⟨c, cs, s, -, hrest, hscan, rfl, rfl⟩ := pull_eq_token h
  cases hmode : lx.mode.isCode with
  | true =>
    rw [scan_of_isCode hmode] at hscan
    have htoken := codeToken_of_scanCode hscan
    obtain ⟨ht, hkind⟩ | ⟨ht, hkind, hlength, hquote, hl⟩ := htoken.transition
    · refine .code hmode hkind ?_
      rw [ht, follow_stay_entered, pass_entered]
    · refine .openTemplate hmode hl hkind ?_ ?_
      · rw [Bool.eq_false_iff]
        intro hstarts
        have htake := (startsSubstitution_tokenOf.1 hstarts).2
        rw [hlength, hrest] at htake
        simp at htake
      · rw [ht, follow_enter_entered, pass_entered]
  | false =>
    have hmode := Mode.eq_template_of_not_isCode hmode
    rw [hmode] at hscan
    cases hscan
    obtain ⟨-, hlength, ht⟩ | ⟨hopens, hlength, ht⟩ | ⟨-, hopens, hlength, ht⟩ :=
      scanTemplate_cases c cs
    · refine .closeTemplate hmode (scanTemplate_kind c cs) ?_ ?_
      · rw [Bool.eq_false_iff]
        intro hstarts
        have htake := (startsSubstitution_tokenOf.1 hstarts).2
        rw [hlength, hrest] at htake
        simp at htake
      · rw [ht, follow_leave_entered, pass_entered]
    · refine .openSubstitution hmode ?_ ?_
      · obtain ⟨rest, hcs⟩ := opensSubstitution_iff.1 hopens
        rw [startsSubstitution_tokenOf, hlength, hrest, hcs]
        exact ⟨scanTemplate_kind c cs, rfl⟩
      · rw [ht, follow_enter_entered, pass_entered]
    · refine .templateText hmode (scanTemplate_kind c cs) ?_ ?_
      · -- text that reads like the start of a substitution would have been taken for one
        rw [Bool.eq_false_iff]
        intro hstarts
        have htake := (startsSubstitution_tokenOf.1 hstarts).2
        have hprefix := List.take_prefix (scanTemplate c cs).length lx.rest
        rw [htake, hrest] at hprefix
        obtain ⟨rest, hrest'⟩ := hprefix
        rw [opensSubstitution_iff.2 ⟨rest, hrest'.symm⟩] at hopens
        cases hopens
      · rw [ht, follow_stay_entered, pass_entered]

/-- A token that is no piece of a template is one of code, and the mode stays as it is. -/
theorem Moves.of_ne (h : lx.Moves t after) (hk : t.kind ≠ .templateLiteral) :
    lx.mode.isCode = true ∧ after.entered = lx.entered := by
  cases h with
  | code hmode hkind hentered => exact ⟨hmode, hentered⟩
  | openTemplate hmode hlanguage hkind hstarts hentered => exact absurd hkind hk
  | closeTemplate hmode hkind hstarts hentered => exact absurd hkind hk
  | openSubstitution hmode hstarts hentered =>
    exact absurd (Token.kind_of_startsSubstitution hstarts) hk
  | templateText hmode hkind hstarts hentered => exact absurd hkind hk

end Lexer

namespace Pass

variable {p q : Pass} {t : Token} {after : Lexer}

/-- **A substitution is noticed exactly at the token that starts it.** -/
theorem entered_eq (h : p.lexer.pull = .token t after) :
    p.entered after = p.contexts.atToken t := by
  rw [entered, ContextStack.atToken]
  simp only [Lexer.state]
  cases Lexer.moves_of_pull h with
  | code hmode hkind hentered =>
    have hstarts : t.startsSubstitution = false := by
      simp [Token.startsSubstitution, Token.is, hkind]
    simp [hentered, hstarts]
  | openTemplate hmode hlanguage hkind hstarts hentered =>
    simp [hentered, hstarts, Lexer.mode, Mode.isCode]
  | closeTemplate hmode hkind hstarts hentered =>
    have hdepth : ¬ p.lexer.entered.length < after.entered.length := by
      rw [hentered, List.length_tail]
      omega
    simp [hdepth, hstarts]
  | openSubstitution hmode hstarts hentered =>
    simp [hentered, hstarts, Lexer.mode, Mode.isCode]
  | templateText hmode hkind hstarts hentered => simp [hentered, hstarts]

/-- What the step for a token does to the open brackets and to the lexer. -/
theorem take_spec (h : p.lexer.pull = .token t after) (htake : p.take t after = .ok q) :
    (p.contexts.atToken t).feed t = .ok q.contexts ∧
      q.lexer = if (p.contexts.atToken t).closesSubstitution t then after.leave else after := by
  obtain ⟨hfeed, hlexer, -⟩ := take_eq_ok htake
  rw [entered_eq h] at hfeed hlexer
  exact ⟨hfeed, hlexer⟩

/-! ### What is open behind some tokens -/

/-- The tokens seen, fed to one flat stack, leave there what is open. -/
theorem Reaches.feedAll_tokens {l : Language} {text : List Char}
    (h : Reaches (ofLexer (.ofText l text)) p) :
    FlatStack.feedAll [] p.tokens = some p.contexts.openings := by
  induction h with
  | refl => rfl
  | tail _ hstep ih =>
    obtain ⟨t, after, hpull, htake⟩ := step?_eq_some_iff.1 hstep
    obtain ⟨hfeed, -⟩ := take_spec hpull htake
    rw [tokens_of_take htake, FlatStack.feedAll_append, ih, Option.bind_some,
      FlatStack.feedAll_singleton]
    obtain ⟨next, hnext, hopenings⟩ | ⟨herror, -⟩ := ContextStack.feedsAlike_atToken _ t
    · cases hfeed.symm.trans hnext
      exact hopenings
    · cases hfeed.symm.trans herror

end Pass

end ImportScan
