/-!
# Brackets

There are three pairs of brackets.  A stack of open brackets accepts an opening bracket always and a
closing one only if it closes the innermost open bracket; nothing else concerns it.

Whoever feeds a lexeme that does not fit goes on with the stack that this has left behind.  So feeding
is told with the stack as a state, which is there behind an error as well.

## Main definitions

* `Bracket` — the pairs, with their two signs.
* `BracketStack` — the open brackets, the innermost one first.
* `BracketStack.feedM` — what a lexeme does to them, be it refused or not.
* `stateBehind`, `BracketStack.feed` — the brackets behind a lexeme that is not refused.

## Main results

* `BracketStack.eq_of_run_feedM` — a lexeme that is refused leaves all brackets open.
* `BracketStack.feed_opener`, `BracketStack.feed_closer` — what the two signs of a pair do.
-/

namespace ImportScan

/-- A pair of brackets. -/
inductive Bracket where
  /-- Parentheses. -/
  | round
  /-- Square brackets. -/
  | square
  /-- Braces. -/
  | curly
  deriving DecidableEq, Repr, Inhabited

namespace Bracket

/-- All pairs. -/
def all : List Bracket := [.round, .square, .curly]

/-- The opening sign. -/
def opener : Bracket → String
  | .round => "("
  | .square => "["
  | .curly => "\x7b"

/-- The closing sign. -/
def closer : Bracket → String
  | .round => ")"
  | .square => "]"
  | .curly => "\x7d"

/-- The pair that a lexeme opens. -/
def ofOpener? (lexeme : String) : Option Bracket := all.find? fun b => b.opener == lexeme

/-- The pair that a lexeme closes. -/
def ofCloser? (lexeme : String) : Option Bracket := all.find? fun b => b.closer == lexeme

@[simp] theorem ofOpener?_opener (b : Bracket) : ofOpener? b.opener = some b := by cases b <;> rfl

@[simp] theorem ofOpener?_closer (b : Bracket) : ofOpener? b.closer = none := by cases b <;> rfl

@[simp] theorem ofCloser?_closer (b : Bracket) : ofCloser? b.closer = some b := by cases b <;> rfl

@[simp] theorem ofCloser?_opener (b : Bracket) : ofCloser? b.opener = none := by cases b <;> rfl

theorem eq_opener_of_ofOpener? {lexeme : String} {b : Bracket} (h : ofOpener? lexeme = some b) :
    lexeme = b.opener := by
  have := List.find?_some h
  simpa using (beq_iff_eq.1 this).symm

theorem eq_closer_of_ofCloser? {lexeme : String} {b : Bracket} (h : ofCloser? lexeme = some b) :
    lexeme = b.closer := by
  have := List.find?_some h
  simpa using (beq_iff_eq.1 this).symm

end Bracket

/-- The state that a use leaves behind, unless it is refused. -/
def stateBehind {ε σ : Type} (use : EStateM ε σ Unit) (s : σ) : Except ε σ :=
  match use.run s with
  | .ok () s => .ok s
  | .error e _ => .error e

/-- The open brackets, the innermost one first. -/
abbrev BracketStack := List Bracket

namespace BracketStack

/-- The sign that closes the innermost open bracket. -/
def expected (s : BracketStack) : Option String := s.head?.map Bracket.closer

/-- What a lexeme does to the open brackets.  One that closes a bracket which is not the innermost open
one is refused, with the sign that would have fitted. -/
def feedM (lexeme : String) : EStateM (Option String) BracketStack Unit := do
  match Bracket.ofOpener? lexeme, Bracket.ofCloser? lexeme with
  | some b, _ => modify (b :: ·)
  | none, some b =>
    let s ← get
    if s.head? = some b then set s.tail else throw s.expected
  | none, none => pure ()

/-- The open brackets behind a lexeme, unless it is refused. -/
def feed (s : BracketStack) (lexeme : String) : Except Unit BracketStack :=
  (stateBehind (feedM lexeme) s).mapError fun _ => ()

theorem run_feedM (s : BracketStack) (lexeme : String) : (feedM lexeme).run s =
    match Bracket.ofOpener? lexeme, Bracket.ofCloser? lexeme with
    | some b, _ => .ok () (b :: s)
    | none, some b => if s.head? = some b then .ok () s.tail else .error s.expected s
    | none, none => .ok () s := by
  unfold feedM
  cases Bracket.ofOpener? lexeme with
  | some b => rfl
  | none =>
    cases Bracket.ofCloser? lexeme with
    | none => rfl
    | some b =>
      show EStateM.run (if s.head? = some b then set s.tail else throw s.expected) s = _
      by_cases h : s.head? = some b
      · simp only [if_pos h]
        rfl
      · simp only [if_neg h]
        rfl

/-- A lexeme that is refused leaves all brackets open, and the innermost of them says what would have
fitted. -/
theorem eq_of_run_feedM {s brackets : BracketStack} {lexeme : String} {expected : Option String}
    (h : (feedM lexeme).run s = .error expected brackets) :
    brackets = s ∧ expected = s.expected := by
  rw [run_feedM] at h
  split at h
  · cases h
  · split at h
    · cases h
    · cases h
      exact ⟨rfl, rfl⟩
  · cases h

theorem feed_eq (s : BracketStack) (lexeme : String) : s.feed lexeme =
    match Bracket.ofOpener? lexeme, Bracket.ofCloser? lexeme with
    | some b, _ => .ok (b :: s)
    | none, some b => if s.head? = some b then .ok s.tail else .error ()
    | none, none => .ok s := by
  rw [feed, stateBehind, run_feedM]
  cases Bracket.ofOpener? lexeme with
  | some b => rfl
  | none =>
    cases Bracket.ofCloser? lexeme with
    | none => rfl
    | some b =>
      by_cases h : s.head? = some b
      · simp only [if_pos h]
        rfl
      · simp only [if_neg h]
        rfl

@[simp] theorem feed_opener (s : BracketStack) (b : Bracket) : s.feed b.opener = .ok (b :: s) := by
  simp [feed_eq]

theorem feed_closer (s : BracketStack) (b : Bracket) :
    s.feed b.closer = if s.head? = some b then .ok s.tail else .error () := by
  simp [feed_eq]

theorem feed_of_none {s : BracketStack} {lexeme : String} (ho : Bracket.ofOpener? lexeme = none)
    (hc : Bracket.ofCloser? lexeme = none) : s.feed lexeme = .ok s := by
  simp [feed_eq, ho, hc]

end BracketStack

end ImportScan
