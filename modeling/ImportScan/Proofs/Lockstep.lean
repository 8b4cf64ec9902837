import ImportScan.Proofs.ModeStack

/-!
# Modes and contexts in step

The lexer keeps a stack of modes and the pass a stack of contexts, and neither sees the other.  The
lexer leaves a template by itself, but a substitution only when it is told to; the pass learns of a
substitution only from the depth of the modes.  Nevertheless the two stacks stay in step: every
other mode that has been entered is a substitution, and the open contexts are just these.

## Main definitions

* `Lexer.modes` — the whole stack of modes.
* `InStep` — the modes alternate, and every second one belongs to a context.

## Main results

* `InStep.pull`, `InStep.feed` — a token keeps a lexer and a context stack in step.
* `InStep.closes` — a substitution ends only in code, with a template around it.
* `Pass.lockstep` — **modes and contexts are in step wherever a pass gets to**.
-/

namespace ImportScan

/-! ### Alternating modes -/

/-- All modes of a lexer, the first one first. -/
def Lexer.modes (lx : Lexer) : List Mode := lx.language.baseMode :: lx.entered.reverse

/-- The mode of a script at some depth: templates and the code inside them alternate. -/
def Mode.atDepth (depth : Nat) : Mode := if depth % 2 = 0 then .script else .template

/-- The modes that are entered on the way to some depth, the last one first. -/
def Mode.alternating : Nat → List Mode
  | 0 => []
  | depth + 1 => atDepth (depth + 1) :: alternating depth

/-- The modes that a lexer has entered at some depth.  Without templates there are none. -/
def Language.modesAbove (l : Language) (depth : Nat) : List Mode :=
  match l with
  | .ecma => Mode.alternating depth
  | .c => []

theorem Mode.atDepth_eq_template_iff {depth : Nat} :
    Mode.atDepth depth = .template ↔ depth % 2 = 1 := by
  unfold Mode.atDepth
  split
  · next h => simp [h]
  · next h => simpa using h

theorem Mode.atDepth_eq_script_iff {depth : Nat} :
    Mode.atDepth depth = .script ↔ depth % 2 = 0 := by
  unfold Mode.atDepth
  split
  · next h => simp [h]
  · next h => simp [h]

theorem Mode.reverse_alternating (depth : Nat) :
    script :: (alternating depth).reverse = (List.range (depth + 1)).map atDepth := by
  induction depth with
  | zero => rfl
  | succ depth ih =>
    rw [alternating, List.reverse_cons, List.range_succ, List.map_append, ← ih]
    rfl

/-! ### In step -/

/-- The modes of a lexer alternate, and every second one that it has entered belongs to a context.
-/
structure InStep (lx : Lexer) (s : ContextStack) : Prop where
  /-- The modes alternate. -/
  modes : lx.entered = lx.language.modesAbove lx.entered.length
  /-- The code inside templates belongs to a context. -/
  depth : s.depth = lx.entered.length / 2

namespace InStep

variable {lx after : Lexer} {s next : ContextStack} {t : Token}

theorem ofText (l : Language) (text : List Char) : InStep (.ofText l text) .empty := by
  cases l <;> exact ⟨rfl, by simp [ContextStack.depth, ContextStack.empty, Lexer.ofText]⟩

/-- The mode is known from the depth. -/
theorem mode_eq (h : InStep lx s) :
    (lx.language = .c ∧ lx.mode = .c ∧ lx.entered = []) ∨
      (lx.language = .ecma ∧ lx.mode = Mode.atDepth lx.entered.length) := by
  have hmodes := h.modes
  unfold Lexer.mode
  cases hl : lx.language with
  | c =>
    rw [hl] at hmodes
    have hnil : lx.entered = [] := hmodes
    exact .inl ⟨rfl, by simp [hnil, Language.baseMode], hnil⟩
  | ecma =>
    refine .inr ⟨rfl, ?_⟩
    rw [hl] at hmodes
    cases hentered : lx.entered with
    | nil => rfl
    | cons m ms =>
      rw [hentered, List.length_cons, Language.modesAbove, Mode.alternating] at hmodes
      rw [(List.cons.inj hmodes).1, List.length_cons]
      rfl

/-- The lexer reads a template exactly at the odd depths. -/
theorem mode_eq_template_iff (h : InStep lx s) :
    lx.mode = .template ↔ lx.entered.length % 2 = 1 := by
  obtain ⟨-, hmode, hnil⟩ | ⟨-, hmode⟩ := h.mode_eq
  · simp [hmode, hnil]
  · rw [hmode, Mode.atDepth_eq_template_iff]

/-- A lexer that is in step and reads a script may enter the mode that comes next. -/
theorem enter (h : InStep lx s) (hl : lx.language = .ecma)
    (hlanguage : after.language = lx.language)
    (hentered : after.entered = Mode.atDepth (lx.entered.length + 1) :: lx.entered)
    (hdepth : next.depth = (lx.entered.length + 1) / 2) : InStep after next := by
  have hmodes := h.modes
  rw [hl, Language.modesAbove] at hmodes
  refine ⟨?_, by rw [hentered, List.length_cons, hdepth]⟩
  rw [hentered, hlanguage, List.length_cons, hl, Language.modesAbove, Mode.alternating, ← hmodes]

/-- A lexer that is in step may leave its mode. -/
theorem leave (h : InStep lx s) (hlanguage : after.language = lx.language)
    (hentered : after.entered = lx.entered.tail)
    (hdepth : next.depth = (lx.entered.length - 1) / 2) : InStep after next := by
  have hmodes := h.modes
  refine ⟨?_, by rw [hentered, List.length_tail, hdepth]⟩
  rw [hentered, hlanguage, List.length_tail]
  cases hl : lx.language with
  | c =>
    rw [hl] at hmodes
    rw [hmodes]
    rfl
  | ecma =>
    rw [hl] at hmodes
    cases hlx : lx.entered with
    | nil => rfl
    | cons m ms =>
      rw [hlx, List.length_cons, Language.modesAbove, Mode.alternating] at hmodes
      exact (List.cons.inj hmodes).2

/-- A pull keeps the lexer in step with the contexts, which notice the substitution that the token
starts, if it does. -/
theorem pull (h : InStep lx s) (hpull : lx.pull = .token t after) : InStep after (s.atToken t) := by
  have hlanguage : after.language = lx.language := by
    obtain ⟨c, cs, scan, -, -, -, -, rfl⟩ := Lexer.pull_eq_token hpull
    exact Lexer.follow_language _ _
  have hmode := h.mode_eq_template_iff
  have hdepth := h.depth
  cases Lexer.moves_of_pull hpull with
  | code _ hkind hentered =>
    have hstarts : t.startsSubstitution = false := by
      simp [Token.startsSubstitution, Token.is, hkind]
    rw [ContextStack.atToken, if_neg (by simp [hstarts])]
    exact ⟨by rw [hentered, hlanguage]; exact h.modes, by rw [hentered]; exact hdepth⟩
  | openTemplate hcode hl _ hstarts hentered =>
    -- a template is opened in a script, at an even depth
    have heven : lx.entered.length % 2 = 0 := by
      have hne : lx.mode ≠ .template := by
        intro htemplate
        simp [htemplate, Mode.isCode] at hcode
      rw [ne_eq, hmode] at hne
      omega
    rw [ContextStack.atToken, if_neg (by simp [hstarts])]
    refine h.enter hl hlanguage ?_ (by omega)
    rw [hentered, Mode.atDepth_eq_template_iff.2 (by omega)]
  | closeTemplate htemplate _ hstarts hentered =>
    -- it is closed again at an odd one
    have hodd := hmode.1 htemplate
    rw [ContextStack.atToken, if_neg (by simp [hstarts])]
    exact h.leave hlanguage hentered (by omega)
  | openSubstitution htemplate hstarts hentered =>
    have hodd := hmode.1 htemplate
    have hl : lx.language = .ecma := by
      obtain ⟨-, -, hnil⟩ | ⟨hl, -⟩ := h.mode_eq
      · simp [hnil] at hodd
      · exact hl
    rw [ContextStack.atToken, if_pos hstarts]
    refine h.enter hl hlanguage ?_ ?_
    · rw [hentered, Mode.atDepth_eq_script_iff.2 (by omega)]
    · show s.nested.length + 1 = _
      have hnested : s.nested.length = lx.entered.length / 2 := hdepth
      omega
  | templateText _ _ hstarts hentered =>
    rw [ContextStack.atToken, if_neg (by simp [hstarts])]
    exact ⟨by rw [hentered, hlanguage]; exact h.modes, by rw [hentered]; exact hdepth⟩

/-- A substitution ends only in code, with a template around it. -/
theorem closes (h : InStep lx s) (hpull : lx.pull = .token t after)
    (hcloses : (s.atToken t).closesSubstitution t = true) :
    ∃ k, 1 ≤ k ∧ after.state = ⟨.script, 2 * k⟩ ∧ after.leave.state = ⟨.template, 2 * k - 1⟩ := by
  have hafter := h.pull hpull
  obtain ⟨hkind, -, -, level, outer, hnested⟩ := ContextStack.closesSubstitution_iff.1 hcloses
  have hdepth := hafter.depth
  rw [ContextStack.depth, hnested, List.length_cons] at hdepth
  -- the brace is a token of code, so the lexer reads no template, before it and behind it
  obtain ⟨hcode, hentered⟩ := (Lexer.moves_of_pull hpull).of_ne (by simp [hkind])
  have heven : after.entered.length % 2 = 0 := by
    have hodd := h.mode_eq_template_iff
    rw [hentered]
    by_cases htemplate : lx.mode = .template
    · simp [htemplate, Mode.isCode] at hcode
    · rw [hodd] at htemplate
      omega
  have hleave : InStep after.leave ⟨s.root, outer⟩ := by
    refine hafter.leave rfl rfl ?_
    show outer.length = _
    omega
  obtain ⟨-, -, hnil⟩ | ⟨hl, hmode⟩ := hafter.mode_eq
  · rw [hnil, List.length_nil] at hdepth
    omega
  have hmode' : after.leave.mode = .template := by
    rw [hleave.mode_eq_template_iff]
    show after.entered.tail.length % 2 = 1
    rw [List.length_tail]
    omega
  refine ⟨after.entered.length / 2, by omega, ?_, ?_⟩
  · rw [Lexer.state, hmode, Mode.atDepth_eq_script_iff.2 heven]
    exact congrArg _ (by omega)
  · rw [Lexer.state, hmode']
    show LexerState.mk _ after.entered.tail.length = _
    rw [List.length_tail]
    exact congrArg _ (by omega)

/-- What a token does to the contexts, and what the lexer is told then, keeps both in step. -/
theorem feed (h : InStep lx s) (hpull : lx.pull = .token t after)
    (hfeed : (s.atToken t).feed t = .ok next) :
    InStep (if (s.atToken t).closesSubstitution t then after.leave else after) next := by
  have hafter := h.pull hpull
  have hdepth := hafter.depth
  have hnext := ContextStack.depth_feed hfeed
  cases hcloses : (s.atToken t).closesSubstitution t with
  | true =>
    obtain ⟨k, hk, hstate, -⟩ := h.closes hpull hcloses
    have hlength : after.entered.length = 2 * k := congrArg LexerState.depth hstate
    rw [hcloses, if_pos rfl] at hnext
    exact hafter.leave rfl rfl (by omega)
  | false =>
    rw [hcloses, if_neg (by simp)] at hnext
    exact ⟨hafter.modes, hnext.trans hdepth⟩

end InStep

/-! ### The run of a pass -/

namespace Pass

variable {l : Language} {text : List Char} {p : Pass}

theorem Reaches.inStep (h : Reaches (ofLexer (.ofText l text)) p) : InStep p.lexer p.contexts := by
  induction h with
  | refl => exact .ofText l text
  | tail _ hstep ih =>
    obtain ⟨t, after, hpull, htake⟩ := step?_eq_some_iff.1 hstep
    obtain ⟨hfeed, hlexer⟩ := take_spec hpull htake
    rw [hlexer]
    exact ih.feed hpull hfeed

/-- **Modes and contexts are in step wherever the pass over a text gets to.**  Without templates the
first mode is the only one; in a script the modes alternate, so that the lexer reads a template at
the odd depths, and the contexts, which are the substitutions that the tokens seen have left open,
are half as many. At the next token a context is opened exactly if it is the start of a
substitution, and where a substitution ends, its context can be left, and the lexer goes from code
at an even depth back to the template around it. -/
theorem lockstep (h : Reaches (ofLexer (.ofText l text)) p) :
    extract l text = p.run ∧
    p.lexer.modes = (match l with
      | .c => [.c]
      | .ecma => (List.range (p.lexer.state.depth + 1)).map Mode.atDepth) ∧
    (p.lexer.state.mode = .template ↔ p.lexer.state.depth % 2 = 1) ∧
    p.contexts.depth = p.lexer.state.depth / 2 ∧
    (∃ opened, FlatStack.feedAll [] p.tokens = some opened ∧
      p.contexts.depth = opened.count .substitution) ∧
    ∀ t after, p.lexer.pull = .token t after →
      (p.entered after = if t.is .templateLiteral "$\x7b" then p.contexts.push else p.contexts) ∧
      ((p.entered after).closesSubstitution t = true →
        ∃ q k, p.take t after = .ok q ∧ (p.entered after).pop t.loc = .ok q.contexts ∧
          q.lexer = after.leave ∧ 1 ≤ k ∧ after.state = ⟨.script, 2 * k⟩ ∧
          after.leave.state = ⟨.template, 2 * k - 1⟩) := by
  have hstep := h.inStep
  have hlanguage := h.follows.language
  refine ⟨run_of_reaches h, ?_, hstep.mode_eq_template_iff, hstep.depth, ?_, ?_⟩
  · have hmodes := hstep.modes
    rw [hlanguage] at hmodes
    rw [Lexer.modes, hlanguage, hmodes]
    cases l with
    | c => rfl
    | ecma => exact Mode.reverse_alternating _
  · exact ⟨p.contexts.openings, h.feedAll_tokens, (ContextStack.count_openings _).symm⟩
  · -- a closer of a substitution leaves the same level on both sides
    intro t after hpull
    have hentered := entered_eq hpull
    refine ⟨hentered, fun hcloses => ?_⟩
    obtain ⟨outer, hpop, -⟩ := ContextStack.feed_of_closes hcloses
    rw [hentered] at hcloses
    obtain ⟨k, hk, hstate, hleave⟩ := hstep.closes hpull hcloses
    cases htake : p.take t after with
    | error m =>
      rw [take_eq_error_iff, ContextStack.feed, hentered, if_pos hcloses, ← hentered, hpop] at htake
      cases htake
    | ok q =>
      obtain ⟨hfeed, hlexer, -⟩ := take_eq_ok htake
      rw [ContextStack.feed, hentered, if_pos hcloses] at hfeed
      rw [hentered, if_pos hcloses] at hlexer
      exact ⟨q, k, rfl, by rw [hentered, hfeed], hlexer, hk, hstate, hleave⟩

/-- Behind `(b)` in a substitution inside a substitution, the next brace ends the inner one. -/
theorem lockstep_nested :
    ∃ p t after, Reaches (ofLexer (.ofText .ecma "`a$\x7b`$\x7b(b)\x7d`\x7d`".toList)) p ∧
      p.lexer.pull = .token t after ∧ (p.entered after).closesSubstitution t = true ∧
      p.contexts.depth = 2 ∧ (∃ q, p.take t after = .ok q ∧ q.lexer.state = ⟨.template, 3⟩) ∧
      after.state = ⟨.script, 4⟩ := by
  have hrun : ((ofLexer (.ofText .ecma "`a$\x7b`$\x7b(b)\x7d`\x7d`".toList)).steps? 8).any
      (fun p => p.lexer.pull.token?.any fun next =>
        (p.entered next.2).closesSubstitution next.1 && p.lexer.state.depth == 4 &&
          next.2.state.depth == 4) = true := by
    decide +kernel
  obtain ⟨p, hp, hnext⟩ := (Option.any_eq_true _ _).1 hrun
  obtain ⟨⟨t, after⟩, hpull, hcheck⟩ := (Option.any_eq_true _ _).1 hnext
  rw [Pull.token?_eq_some_iff] at hpull
  simp only [Bool.and_eq_true, beq_iff_eq] at hcheck
  obtain ⟨⟨hcloses, hdepth⟩, hdepth'⟩ := hcheck
  obtain ⟨-, -, -, hcontexts, -, htoken⟩ := lockstep (reaches_of_steps? hp)
  obtain ⟨q, k, htake, -, hlexer, hk, hstate, hleave⟩ := (htoken t after hpull).2 hcloses
  -- the lexer keeps two modes for each substitution
  have hk : k = 2 := by
    have htwice : 2 * k = 4 := by rw [← hdepth', hstate]
    omega
  subst hk
  exact ⟨p, t, after, reaches_of_steps? hp, hpull, hcloses, by rw [hcontexts, hdepth],
    ⟨q, htake, by rw [hlexer, hleave]⟩, hstate⟩

end Pass

end ImportScan
