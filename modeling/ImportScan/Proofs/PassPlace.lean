import ImportScan.Proofs.Acceptance
import ImportScan.Proofs.TokenPlace

/-!
# The places that a pass reports

A pass only ever tells the lexer to leave a mode, which changes no place.  So all tokens that it has
seen stand in the text at their places, and whatever ends the pass early is reported at the place of
a token, of a lexical error, or of the end of the text.

## Main definitions

* `Pass.InPlace` — the lexer of a pass, and the tokens that it has seen, are at their places.
* `ExtractionFault.Faces` — what stands behind the place of a fault.

## Main results

* `Pass.Reaches.inPlace` — **wherever a pass gets to, everything is at its place**.
* `isIn_tokens`, `exists_marks_fault` — the tokens of a text are at their places, and so is the fault
  that ends a pass.
-/

namespace ImportScan

namespace Pass

variable {p q : Pass} {l : Language} {text : List Char}

/-- The lexer of a pass marks the text that is left, and the tokens seen stand in the text. -/
structure InPlace (p : Pass) (text : List Char) : Prop where
  /-- The lexer stands at the place behind what it has passed. -/
  lexer : ∃ passed, text = passed ++ p.lexer.rest ∧ p.lexer.Marks passed
  /-- The tokens stand at their places. -/
  tokens : ∀ t ∈ p.tokens, t.IsIn text

theorem inPlace_ofText (l : Language) (text : List Char) :
    (ofLexer (.ofText l text)).InPlace text where
  lexer := ⟨[], rfl, Lexer.marks_ofText l text⟩
  tokens := by
    intro t ht
    cases ht

/-- The step for one token keeps everything at its place. -/
theorem InPlace.step (h : p.InPlace text) (hstep : p.step? = some q) : q.InPlace text := by
  obtain ⟨t, after, hpull, htake⟩ := step?_eq_some_iff.1 hstep
  obtain ⟨-, hlexer, -⟩ := take_eq_ok htake
  obtain ⟨passed, htext, hmarks⟩ := h.lexer
  obtain ⟨-, hrest, hafter⟩ := hmarks.pull hpull
  constructor
  · refine ⟨passed ++ t.lexeme.toList, ?_, ?_⟩
    · rw [take_rest htake, htext, hrest, List.append_assoc]
    · rw [hlexer]
      split
      · exact Lexer.marks_leave.2 hafter
      · exact hafter
  · rw [tokens_of_take htake]
    intro u hu
    rcases List.mem_append.1 hu with hu | hu
    · exact h.tokens u hu
    · rw [List.mem_singleton.1 hu]
      exact hmarks.token_isIn htext hpull

/-- **Wherever a pass gets to, everything is at its place.** -/
theorem Reaches.inPlace (h : Reaches (ofLexer (.ofText l text)) p) : p.InPlace text := by
  induction h with
  | refl => exact inPlace_ofText l text
  | tail _ hstep ih => exact ih.step hstep

end Pass

/-! ### What the pass over a text gives -/

variable {l : Language} {text : List Char}

/-- Where the fault that ends a pass is reported. -/
def ExtractionFault.loc : ExtractionFault → Location
  | .lex e => e.loc
  | .balance m => m.loc

/-- What stands behind the place of a mismatch: the token that does not fit, or the end of the
text. -/
def BalanceMismatch.Faces (m : BalanceMismatch) (behind : List Char) : Prop :=
  match m.found with
  | some lexeme => lexeme.toList <+: behind
  | none => behind = []

/-- What stands behind the place of a fault. -/
def ExtractionFault.Faces (behind : List Char) : ExtractionFault → Prop
  | .lex _ => behind ≠ []
  | .balance m => m.Faces behind

/-- The tokens of a text stand in it. -/
theorem isIn_tokens {t : Token} (ht : t ∈ (extract l text).tokens) : t.IsIn text := by
  obtain ⟨p, hreaches, hends⟩ := Pass.exists_ends_extract l text
  have hplace := hreaches.inPlace
  generalize extract l text = r at hends ht
  cases hends with
  | finished hpull => exact hplace.tokens t ht
  | fault e after hpull => exact hplace.tokens t ht
  | mismatch last after m hpull htake =>
    -- the token that does not fit is the last one
    have hmem : t ∈ p.tokens ++ [last] := by
      simpa [PassResult.tokens, Pass.tokens] using ht
    obtain ⟨passed, htext, hmarks⟩ := hplace.lexer
    rcases List.mem_append.1 hmem with ht | ht
    · exact hplace.tokens t ht
    · rw [List.mem_singleton.1 ht]
      exact hmarks.token_isIn htext hpull

/-- The fault that ends a pass is reported at the place of what is wrong. -/
theorem exists_marks_fault {fault : ExtractionFault}
    (h : (extract l text).outcome = .error fault) :
    ∃ before behind, text = before ++ behind ∧ fault.loc.Marks before behind ∧
      fault.Faces behind := by
  obtain ⟨p, hreaches, hends⟩ := Pass.exists_ends_extract l text
  obtain ⟨passed, htext, hmarks⟩ := hreaches.inPlace.lexer
  have hfollows := hreaches.follows
  generalize extract l text = r at hends h
  cases hends with
  | finished hpull =>
    -- something is open at the end of the text
    have hrest := (hfollows.rest_of_finished hpull).1
    by_cases hopen : p.contexts.openings = []
    · obtain ⟨x, hx⟩ := Pass.finish_of_nil hopen
      cases hx.symm.trans h
    · cases (Pass.finish_of_ne_nil hopen).symm.trans h
      exact ⟨passed, p.lexer.rest, htext, hmarks, hrest⟩
  | fault e after hpull =>
    cases h
    have hrest : p.lexer.rest ≠ [] := by
      intro hnil
      rw [Lexer.pull_eq_finished_iff.2 (.inr hnil)] at hpull
      cases hpull
    refine ⟨passed, p.lexer.rest, htext, ?_, hrest⟩
    rw [ExtractionFault.loc, (Lexer.pull_eq_fault hpull).1]
    exact hmarks
  | mismatch t after m hpull htake =>
    cases h
    obtain ⟨-, rfl⟩ := Pass.misfit_of_take hpull htake
    obtain ⟨before, behind, hcut, ht⟩ := hmarks.token_isIn htext hpull
    exact ⟨before, t.lexeme.toList ++ behind, hcut, ht, List.prefix_append _ _⟩

end ImportScan
