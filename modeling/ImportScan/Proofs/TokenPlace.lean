import ImportScan.Proofs.TokenEnd
import ImportScan.Proofs.TokenStream

/-!
# The places of tokens

A lexer counts on from its place when it passes a token.  Since no token ends in the middle of a line
end, it may count each of them on its own: its place is always the one that the text before it leads
to, and so is the place of every token and of every error.

## Main definitions

* `Lexer.Marks` — the lexer has passed some text, and its place marks what is left.
* `Location.IsIn`, `Location.IsAt`, `Token.IsIn` — a place in a text, the place of a word, and a token
  at its place.
* `Lexer.after` — the lexer behind some calls.

## Main results

* `Lexer.Marks.pull` — a pulled token stands where the lexer stood, and the lexer behind it.
* `Lexer.Marks.calls` — **all answers of a lexer are at their places, and so is the lexer behind
  them**, whatever it is told.
-/

namespace ImportScan

/-! ### Places in a text -/

/-- The location is the place of a cut of the text. -/
def Location.IsIn (loc : Location) (text : List Char) : Prop :=
  ∃ before behind, text = before ++ behind ∧ loc.Marks before behind

/-- The location is the place where a word stands in the text. -/
def Location.IsAt (loc : Location) (text word : List Char) : Prop :=
  ∃ before behind, text = before ++ (word ++ behind) ∧ loc.Marks before (word ++ behind)

/-- The token stands in the text, and its location is the place where it starts. -/
def Token.IsIn (t : Token) (text : List Char) : Prop := t.loc.IsAt text t.lexeme.toList

theorem Location.IsAt.isIn {loc : Location} {text word : List Char} (h : loc.IsAt text word) :
    loc.IsIn text := by
  obtain ⟨before, behind, htext, hmarks⟩ := h
  exact ⟨before, word ++ behind, htext, hmarks⟩

/-! ### Passing tokens -/

namespace Lexer

variable {lx next : Lexer} {t : Token} {passed text : List Char}

/-- The lexer has passed some text, and its place marks what is left. -/
def Marks (lx : Lexer) (passed : List Char) : Prop := lx.loc.Marks passed lx.rest

theorem marks_ofText (l : Language) (text : List Char) : (ofText l text).Marks [] := by
  have hstart : Location.start = placeBehind [] := rfl
  rw [Marks, ofText, hstart]
  exact Location.marks_placeBehind (not_splitsLineEnd_nil_left text)

@[simp] theorem marks_leave : lx.leave.Marks passed ↔ lx.Marks passed := Iff.rfl

/-- Passing one more piece of the text. -/
theorem advance_placeBehind {passed lexeme behind : List Char} (hne : lexeme ≠ [])
    (h : ¬ SplitsLineEnd passed (lexeme ++ behind)) :
    (placeBehind passed).advance lexeme = placeBehind (passed ++ lexeme) := by
  rw [← Location.advance_start, ← Location.advance_start, Location.advance_append]
  rintro ⟨hlast, hhead⟩
  refine h ⟨hlast, ?_⟩
  rw [List.head?_append_of_ne_nil _ hne]
  exact hhead

/-- A pulled token stands where the lexer stood, and the lexer goes on behind it. -/
theorem Marks.pull (h : lx.Marks passed) (hpull : lx.pull = .token t next) :
    t.loc = lx.loc ∧ lx.rest = t.lexeme.toList ++ next.rest ∧
      next.Marks (passed ++ t.lexeme.toList) := by
  have hrest := pull_rest hpull
  obtain ⟨c, cs, s, -, hcs, hscan, rfl, rfl⟩ := pull_eq_token hpull
  refine ⟨rfl, hrest.symm, ?_⟩
  have hlexeme : (lx.tokenOf s.kind s.length).lexeme.toList = (c :: cs).take s.length := by
    simp [tokenOf, hcs]
  have hleft : ((lx.pass s.kind s.length).follow s.transition).rest = (c :: cs).drop s.length := by
    simp [pass, hcs]
  have hloc : ((lx.pass s.kind s.length).follow s.transition).loc
      = lx.loc.advance ((c :: cs).take s.length) := by
    simp [pass, hcs]
  have hne : (c :: cs).take s.length ≠ [] := by
    have hpos := s.length_pos
    simp only [ne_eq, List.take_eq_nil_iff, reduceCtorEq, or_false]
    omega
  -- neither end of the token is in the middle of a line end
  have hstart : ¬ SplitsLineEnd passed ((c :: cs).take s.length ++ (c :: cs).drop s.length) := by
    rw [List.take_append_drop, ← hcs]
    exact h.whole
  have hstop : ¬ SplitsLineEnd (passed ++ (c :: cs).take s.length) ((c :: cs).drop s.length) := by
    rintro ⟨hlast, hhead⟩
    rw [List.getLast?_append_of_ne_nil _ hne] at hlast
    exact scan_not_splitsLineEnd hscan ⟨hlast, hhead⟩
  rw [Marks, hloc, hleft, hlexeme, h.eq_placeBehind, advance_placeBehind hne hstart]
  exact Location.marks_placeBehind hstop

/-- What the lexer gives away stands in the text. -/
theorem Marks.token_isIn (h : lx.Marks passed) (htext : text = passed ++ lx.rest)
    (hpull : lx.pull = .token t next) : t.IsIn text := by
  obtain ⟨hloc, hrest, -⟩ := h.pull hpull
  refine ⟨passed, next.rest, by rw [htext, hrest], ?_⟩
  rw [hloc, ← hrest]
  exact h

/-! ### Calls in any order -/

/-- The lexer behind some calls, made one after the other. -/
def after (lx : Lexer) : List Call → Lexer
  | [] => lx
  | .leave :: calls => lx.leave.after calls
  | .pull :: calls =>
    match lx.pull with
    | .finished => lx.after calls
    | .token _ next => next.after calls
    | .fault _ next => next.after calls

/-- The answer is at its place in the text. -/
def Answer.IsIn (text : List Char) : Answer → Prop
  | .finished => True
  | .token t => t.IsIn text
  | .fault e => e.loc.IsIn text

/-- A lexer that meets an error stays where it is. -/
theorem Marks.fault {e : LexError} (h : lx.Marks passed) (hpull : lx.pull = .fault e next) :
    next.Marks passed ∧ next.rest = lx.rest := by
  unfold Lexer.pull at hpull
  split at hpull
  · cases hpull
  · split at hpull
    · cases hpull
    · split at hpull
      · cases hpull
      · cases hpull
        exact ⟨h, rfl⟩

/-- **All answers of a lexer are at their places, and so is the lexer behind them.** -/
theorem Marks.calls (h : lx.Marks passed) (htext : text = passed ++ lx.rest) (calls : List Call) :
    (∀ a ∈ lx.answers calls, a.IsIn text) ∧
      ∃ passed', text = passed' ++ (lx.after calls).rest ∧ (lx.after calls).Marks passed' := by
  induction calls generalizing lx passed with
  | nil => exact ⟨by simp [answers], passed, htext, h⟩
  | cons call calls ih =>
    cases call with
    | leave => exact ih (marks_leave.2 h) htext
    | pull =>
      rw [answers, Lexer.after]
      cases hpull : lx.pull with
      | finished =>
        obtain ⟨hanswers, hafter⟩ := ih h htext
        exact ⟨List.forall_mem_cons.2 ⟨trivial, hanswers⟩, hafter⟩
      | token t next =>
        obtain ⟨-, hrest, hnext⟩ := h.pull hpull
        obtain ⟨hanswers, hafter⟩ := ih hnext (by rw [htext, hrest, List.append_assoc])
        exact ⟨List.forall_mem_cons.2 ⟨h.token_isIn htext hpull, hanswers⟩, hafter⟩
      | fault e next =>
        obtain ⟨hnext, hrest⟩ := h.fault hpull
        obtain ⟨hanswers, hafter⟩ := ih hnext (by rw [hrest, htext])
        -- an error stands where the lexer does
        have he : e.loc.IsIn text := by
          refine ⟨passed, lx.rest, htext, ?_⟩
          rw [(pull_eq_fault hpull).1]
          exact h
        exact ⟨List.forall_mem_cons.2 ⟨he, hanswers⟩, hafter⟩

end Lexer

end ImportScan
