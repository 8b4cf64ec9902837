import Mathlib.Algebra.Group.Nat.Even
import ImportScan.Proofs.Acceptance
import ImportScan.Proofs.Lockstep

/-!
# Templates at the end of a text

At the end of a text a pass asks for brackets and substitutions that are still open.  Templates are
on the stack of modes of the lexer, which nobody asks.  A template inside a substitution cannot stay
open, since its substitution could not be closed, but one at the top level can, and the rest of the
text is then taken for its text.

## Main definitions

* `Token.isTemplateQuote` — the quotes that open and close templates.

## Main results

* `InStep.pull_quote` — how a token changes the depth of the modes, by whether it is such a quote.
* `Pass.Reaches.quotes` — the number of quotes behind some tokens tells how many templates are open.
* `extract_ok_modes` — **a text that is accepted leaves no bracket and no substitution open, and a
  template exactly if the number of its quotes is odd**.
-/

namespace ImportScan

/-- Whether the token is a quote that opens or closes a template. -/
def Token.isTemplateQuote (t : Token) : Bool :=
  t.is .templateLiteral (String.singleton templateQuote)

/-! ### One token -/

section

variable {lx after : Lexer} {s : ContextStack} {t : Token}

theorem Lexer.isTemplateQuote_tokenOf {kind : TokenKind} {n : Nat} :
    (lx.tokenOf kind n).isTemplateQuote = true ↔
      kind = .templateLiteral ∧ lx.rest.take n = [templateQuote] := by
  have hquote : String.singleton templateQuote = String.ofList [templateQuote] := rfl
  simp only [Token.isTemplateQuote, Token.is, tokenOf, hquote, Bool.and_eq_true, beq_iff_eq,
    String.ofList_inj]

/-- How a pull moves the lexer between its modes: a quote enters a template in code and leaves one in
a template, and another token enters the code of a substitution or nothing. -/
theorem Lexer.depth_of_pull (h : lx.pull = .token t after) :
    (t.isTemplateQuote = true ∧ lx.mode.isCode = true ∧
        after.entered.length = lx.entered.length + 1) ∨
      (t.isTemplateQuote = true ∧ lx.mode = .template ∧
        after.entered.length = lx.entered.length - 1) ∨
      (t.isTemplateQuote = false ∧ lx.mode = .template ∧
        after.entered.length = lx.entered.length + 1) ∨
      (t.isTemplateQuote = false ∧ after.entered.length = lx.entered.length) := by
  obtain ⟨c, cs, s, -, hrest, hscan, rfl, rfl⟩ := pull_eq_token h
  have hquote := @isTemplateQuote_tokenOf lx s.kind s.length
  rw [hrest] at hquote
  cases hmode : lx.mode.isCode with
  | true =>
    rw [scan_of_isCode hmode] at hscan
    obtain ⟨ht, hkind⟩ | ⟨ht, hkind, hlength, hc, -⟩ := (codeToken_of_scanCode hscan).transition
    · refine .inr (.inr (.inr ⟨?_, by simp [ht]⟩))
      rw [Bool.eq_false_iff]
      exact fun hq => hkind (hquote.1 hq).1
    · refine .inl ⟨hquote.2 ⟨hkind, ?_⟩, rfl, by simp [ht]⟩
      simp [hlength, hc]
  | false =>
    have hmode := Mode.eq_template_of_not_isCode hmode
    rw [hmode] at hscan
    cases hscan
    obtain ⟨hc, hlength, ht⟩ | ⟨hopens, hlength, ht⟩ | ⟨hc, -, -, ht⟩ := scanTemplate_cases c cs
    · refine .inr (.inl ⟨hquote.2 ⟨scanTemplate_kind c cs, ?_⟩, hmode, by simp [ht]⟩)
      rw [hlength, hc]
      rfl
    · refine .inr (.inr (.inl ⟨?_, hmode, by simp [ht]⟩))
      rw [Bool.eq_false_iff]
      intro hq
      obtain ⟨rest, hcs⟩ := opensSubstitution_iff.1 hopens
      have htake := (hquote.1 hq).2
      rw [hlength, hcs] at htake
      cases htake
    · refine .inr (.inr (.inr ⟨?_, by simp [ht]⟩))
      rw [Bool.eq_false_iff]
      intro hq
      -- text does not start with the quote
      have htake := (hquote.1 hq).2
      have hpos := (scanTemplate c cs).length_pos
      obtain ⟨n, hn⟩ : ∃ n, (scanTemplate c cs).length = n + 1 :=
        ⟨(scanTemplate c cs).length - 1, by omega⟩
      rw [hn, List.take_succ_cons] at htake
      exact hc (List.cons.inj htake).1

/-- The templates that are open at some depth of the modes. -/
def templatesAt (depth : Nat) : Nat := (depth + 1) / 2

/-- In step with the contexts, a quote changes the number of open templates by one, and no other
token changes it. -/
theorem InStep.pull_quote (h : InStep lx s) (hpull : lx.pull = .token t after) :
    templatesAt after.entered.length % 2
      = (templatesAt lx.entered.length + if t.isTemplateQuote then 1 else 0) % 2 := by
  have hodd := h.mode_eq_template_iff
  unfold templatesAt
  obtain ⟨hq, hcode, hlength⟩ | ⟨hq, hmode, hlength⟩ | ⟨hq, hmode, hlength⟩ | ⟨hq, hlength⟩ :=
    Lexer.depth_of_pull hpull
  -- code is read at the even depths
  · have hne : lx.mode ≠ .template := by
      intro htemplate
      simp [htemplate, Mode.isCode] at hcode
    rw [Ne, hodd] at hne
    rw [hq, hlength, if_pos rfl]
    omega
  · have hone := hodd.1 hmode
    rw [hq, hlength, if_pos rfl]
    omega
  · have hone := hodd.1 hmode
    rw [hq, hlength, if_neg (by simp)]
    omega
  · rw [hq, hlength, if_neg (by simp)]
    rfl

end

/-! ### The run of a pass -/

variable {l : Language} {text : List Char}

/-- The number of quotes behind some tokens tells whether the number of open templates is odd. -/
theorem Pass.Reaches.quotes {p : Pass} (h : Reaches (ofLexer (.ofText l text)) p) :
    p.tokens.countP Token.isTemplateQuote % 2 = templatesAt p.lexer.entered.length % 2 := by
  induction h with
  | refl =>
    have hstart : templatesAt 0 = 0 := by decide
    exact congrArg (· % 2) hstart.symm
  | @tail p q hreaches hstep ih =>
    obtain ⟨t, after, hpull, htake⟩ := step?_eq_some_iff.1 hstep
    have hin := inStep hreaches
    have hquote := hin.pull_quote hpull
    -- the end of a substitution leaves its templates open
    have hleave : templatesAt q.lexer.entered.length = templatesAt after.entered.length := by
      rw [(take_spec hpull htake).2]
      split
      · next hcloses =>
        obtain ⟨k, hk, hstate, -⟩ := hin.closes hpull hcloses
        have hlength : after.entered.length = 2 * k := congrArg LexerState.depth hstate
        show templatesAt after.entered.tail.length = _
        rw [List.length_tail, hlength]
        unfold templatesAt
        omega
      · rfl
    rw [tokens_of_take htake, List.countP_append, List.countP_singleton, hleave, hquote]
    omega

/-- **A text that is accepted leaves no bracket and no substitution open, and a template exactly if
the number of its quotes is odd.**  Only if that number is even is the lexer back where it started;
otherwise it has come to the end of the text in a template at the top level. -/
theorem extract_ok_modes {x : Extraction} (h : (extract l text).outcome = .ok x) :
    FlatStack.feedAll [] (extract l text).tokens = some [] ∧
      ((extract l text).lexer.state = ⟨l.baseMode, 0⟩ ↔
        Even ((extract l text).tokens.countP Token.isTemplateQuote)) ∧
      (¬ Even ((extract l text).tokens.countP Token.isTemplateQuote) →
        l = .ecma ∧ (extract l text).lexer.state = ⟨.template, 1⟩) := by
  obtain ⟨p, hreaches, hends⟩ := Pass.exists_ends_extract l text
  have hopen := hreaches.feedAll_tokens
  have hquotes := hreaches.quotes
  have hstep := hreaches.inStep
  have hlanguage := hreaches.follows.language
  generalize extract l text = r at hends h ⊢
  cases hends with
  | fault e after hpull => cases h
  | mismatch t after m hpull htake => cases h
  | finished hpull =>
    have hnil : p.contexts.openings = [] := by
      by_contra hne
      cases h.symm.trans (Pass.finish_of_ne_nil hne)
    -- without substitutions, at most one mode has been entered
    have hdepth : p.lexer.entered.length / 2 = 0 := by
      rw [← hstep.depth, ← ContextStack.count_openings, hnil]
      rfl
    have hcount : p.tokens.countP Token.isTemplateQuote % 2 = p.lexer.entered.length := by
      rw [hquotes, templatesAt]
      omega
    refine ⟨hopen.trans (congrArg some hnil), ?_, ?_⟩
    · show p.lexer.state = _ ↔ Even (p.tokens.countP _)
      rw [Nat.even_iff, hcount]
      constructor
      · exact congrArg LexerState.depth
      · intro hzero
        have hentered := List.length_eq_zero_iff.1 hzero
        simp [Lexer.state, Lexer.mode, hentered, hlanguage]
    · intro hodd
      have hone : p.lexer.entered.length = 1 := by
        have hodd : ¬ Even (p.tokens.countP Token.isTemplateQuote) := hodd
        rw [Nat.even_iff, hcount] at hodd
        omega
      obtain ⟨-, -, hentered⟩ | ⟨hl, hmode⟩ := hstep.mode_eq
      · simp [hentered] at hone
      · refine ⟨hlanguage.symm.trans hl, ?_⟩
        show p.lexer.state = _
        rw [Lexer.state, hmode, hone]
        rfl

/-- A template at the top level that nothing closes takes the import behind its quote with it. -/
theorem extract_ok_modes_open :
    (extract .ecma "\x60import a from 'b';".toList).outcome = .ok .empty ∧
      (extract .ecma "\x60import a from 'b';".toList).lexer.state = ⟨.template, 1⟩ := by
  have hpass : ((Pass.ofLexer (.ofText .ecma "\x60import a from 'b';".toList)).steps? 2).any
      (fun p => p.lexer.pull == .finished && p.finish.toOption == some .empty &&
        p.tokens.countP Token.isTemplateQuote == 1) = true := by
    decide +kernel
  obtain ⟨p, hp, hcheck⟩ := (Option.any_eq_true _ _).1 hpass
  simp only [Bool.and_eq_true, beq_iff_eq] at hcheck
  obtain ⟨⟨hpull, hfinish⟩, hcount⟩ := hcheck
  obtain ⟨hempty, htokens⟩ := Pass.outcome_of_steps? hp hpull hfinish
  refine ⟨hempty, ((extract_ok_modes hempty).2.2 ?_).2⟩
  rw [htokens, hcount]
  decide

end ImportScan
