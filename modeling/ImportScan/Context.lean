import ImportScan.Bracket
import ImportScan.Token

/-!
# Nested contexts

A substitution inside a template is a context of its own: its brackets balance independently of those
around the template.  The context stack keeps the open brackets of the code at top level and of every
open substitution.

A use that is refused reports the brackets that it leaves behind, whatever they are; that these are the
brackets it has found is a fact about the uses.

## Main definitions

* `BalanceMismatch` — a bracket that does not fit, or a text that ends too early.
* `ContextStack` — the open brackets of all contexts.
* `ContextStack.push`, `ContextStack.popM` — a substitution starts, or ends.
* `ContextStack.observeM` — what a token does to the innermost context.
* `ContextStack.pop`, `ContextStack.observe` — the stack behind such a use, unless it is refused.
* `ContextStack.finish` — the check at the end of the text.
* `ContextStack.snapshot` — all that is open, as one list.

## Main results

* `ContextStack.pop_eq`, `ContextStack.observe_eq` — the stack behind a use, told at once.
* `ContextStack.eq_of_run_popM`, `ContextStack.eq_of_run_observeM` — a use that is refused leaves the
  stack as it was.
-/

namespace ImportScan

/-! ### Mismatches -/

/-- Brackets or contexts that do not nest. -/
structure BalanceMismatch where
  /-- The sign that would close what was opened last, if anything is open. -/
  expected : Option String
  /-- The lexeme found instead, `none` at the end of the text. -/
  found : Option String
  /-- All that is open, from the outside inwards. -/
  stack : List String
  /-- Where it was found. -/
  loc : Location
  deriving DecidableEq, Repr, Inhabited

namespace BalanceMismatch

/-- A text between single quotes. -/
def inQuotes (s : String) : String := "'" ++ s ++ "'"

/-- All that is open, as it is shown. -/
def stackText (m : BalanceMismatch) : String := ", ".intercalate (m.stack.map inQuotes)

/-- What was found, as it is shown. -/
def foundText (m : BalanceMismatch) : String :=
  match m.found with
  | some lexeme => inQuotes lexeme
  | none => "end of input"

/-- What was expected, as it is shown. -/
def expectedText (m : BalanceMismatch) : String :=
  match m.expected with
  | some closer => "expected " ++ inQuotes closer
  | none => "no open bracket"

/-- The whole mismatch, as it is shown. -/
def message (m : BalanceMismatch) : String :=
  "unbalanced " ++ m.foundText ++ " at " ++ m.loc.text ++ ": " ++ m.expectedText ++ " [ " ++
    m.stackText ++ " ]"

end BalanceMismatch

/-! ### The stack -/

/-- The open brackets of the code at top level and of every open substitution. -/
structure ContextStack where
  /-- The open brackets at top level. -/
  root : BracketStack
  /-- The open brackets of each substitution, the innermost substitution first. -/
  nested : List BracketStack
  deriving DecidableEq, Repr, Inhabited

namespace ContextStack

/-- Nothing is open. -/
def empty : ContextStack := ⟨[], []⟩

/-- How a substitution shows among the open brackets. -/
def substitutionOpener : String := "$\x7b"

/-- The number of open substitutions. -/
def depth (s : ContextStack) : Nat := s.nested.length

/-- The open brackets of the innermost context. -/
def top (s : ContextStack) : BracketStack := s.nested.head?.getD s.root

/-- Replace the open brackets of the innermost context. -/
def setTop (s : ContextStack) (brackets : BracketStack) : ContextStack :=
  match s.nested with
  | [] => { s with root := brackets }
  | _ :: outer => { s with nested := brackets :: outer }

/-- All that is open, from the outside inwards. -/
def snapshot (s : ContextStack) : List String :=
  (s.root.reverse.map Bracket.opener) ++
    s.nested.reverse.flatMap fun level =>
      substitutionOpener :: level.reverse.map Bracket.opener

/-- The mismatch to report in this state. -/
def mismatch (s : ContextStack) (expected found : Option String) (loc : Location) :
    BalanceMismatch :=
  ⟨expected, found, s.snapshot, loc⟩

/-- A substitution starts. -/
def push (s : ContextStack) : ContextStack := { s with nested := [] :: s.nested }

/-- A substitution ends.  None of its brackets may be open. -/
def popM (loc : Location) : EStateM BalanceMismatch ContextStack Unit := do
  let s ← get
  match s.nested with
  | [] => throw (s.mismatch none (some Bracket.curly.closer) loc)
  | level :: outer =>
    if level.isEmpty then set { s with nested := outer }
    else throw (s.mismatch level.expected (some Bracket.curly.closer) loc)

/-- The stack behind the end of a substitution, unless it is refused. -/
def pop (s : ContextStack) (loc : Location) : Except BalanceMismatch ContextStack :=
  stateBehind (popM loc) s

/-- Whether a token ends the innermost substitution rather than closing a bracket. -/
def closesSubstitution (s : ContextStack) (t : Token) : Bool :=
  t.isPunctuator Bracket.curly.closer && 0 < s.depth && s.top.isEmpty

/-- What a token does to the innermost context.  Only punctuators can be brackets.  The lexeme is fed to
the brackets in their place, and what is reported is told from what this has left there. -/
def observeM (t : Token) : EStateM BalanceMismatch ContextStack Unit := do
  if t.kind = .punctuator then
    let s ← get
    match (BracketStack.feedM t.lexeme).run s.top with
    | .ok () brackets => set (s.setTop brackets)
    | .error expected brackets =>
      set (s.setTop brackets)
      throw ((s.setTop brackets).mismatch expected (some t.lexeme) t.loc)

/-- The stack behind a token, unless it is refused. -/
def observe (s : ContextStack) (t : Token) : Except BalanceMismatch ContextStack :=
  stateBehind (observeM t) s

/-- The check at the end of the text: nothing may be open. -/
def finish (s : ContextStack) (loc : Location) : Except BalanceMismatch Unit :=
  if s.depth = 0 && s.root.isEmpty then .ok ()
  else .error (s.mismatch (s.top.expected.or (some Bracket.curly.closer)) none loc)

/-! ### What the uses leave behind -/

theorem setTop_top (s : ContextStack) : s.setTop s.top = s := by
  obtain ⟨root, nested⟩ := s
  cases nested <;> rfl

theorem run_popM (s : ContextStack) (loc : Location) : (popM loc).run s =
    match s.nested with
    | [] => .error (s.mismatch none (some Bracket.curly.closer) loc) s
    | level :: outer =>
      if level.isEmpty then .ok () { s with nested := outer }
      else .error (s.mismatch level.expected (some Bracket.curly.closer) loc) s := by
  obtain ⟨root, nested⟩ := s
  cases nested with
  | nil => rfl
  | cons level outer => cases level <;> rfl

theorem pop_eq (s : ContextStack) (loc : Location) : s.pop loc =
    match s.nested with
    | [] => .error (s.mismatch none (some Bracket.curly.closer) loc)
    | level :: outer =>
      if level.isEmpty then .ok { s with nested := outer }
      else .error (s.mismatch level.expected (some Bracket.curly.closer) loc) := by
  obtain ⟨root, nested⟩ := s
  cases nested with
  | nil => rfl
  | cons level outer => cases level <;> rfl

/-- Where the end of a substitution is refused, the stack stays as it was. -/
theorem eq_of_run_popM {s left : ContextStack} {loc : Location} {m : BalanceMismatch}
    (h : (popM loc).run s = .error m left) : left = s ∧ m.stack = s.snapshot := by
  rw [run_popM] at h
  split at h
  · cases h
    exact ⟨rfl, rfl⟩
  · split at h
    · cases h
    · cases h
      exact ⟨rfl, rfl⟩

theorem run_observeM (s : ContextStack) (t : Token) : (observeM t).run s =
    if t.kind = .punctuator then
      match (BracketStack.feedM t.lexeme).run s.top with
      | .ok () brackets => .ok () (s.setTop brackets)
      | .error expected brackets =>
        .error ((s.setTop brackets).mismatch expected (some t.lexeme) t.loc) (s.setTop brackets)
    else .ok () s := by
  unfold observeM
  split
  · show EStateM.run (match (BracketStack.feedM t.lexeme).run s.top with
      | .ok () brackets => set (s.setTop brackets)
      | .error expected brackets => do
        set (s.setTop brackets)
        throw ((s.setTop brackets).mismatch expected (some t.lexeme) t.loc)) s = _
    cases (BracketStack.feedM t.lexeme).run s.top <;> rfl
  · rfl

/-- Where a token is refused, the stack stays as it was, since its innermost brackets do. -/
theorem eq_of_run_observeM {s left : ContextStack} {t : Token} {m : BalanceMismatch}
    (h : (observeM t).run s = .error m left) : left = s ∧ m.stack = s.snapshot := by
  rw [run_observeM] at h
  split at h
  · split at h
    · cases h
    · next expected brackets hfeed =>
      obtain ⟨rfl, -⟩ := BracketStack.eq_of_run_feedM hfeed
      cases h
      rw [setTop_top]
      exact ⟨rfl, rfl⟩
  · cases h

theorem observe_eq (s : ContextStack) (t : Token) : s.observe t =
    if t.kind = .punctuator then
      match s.top.feed t.lexeme with
      | .ok brackets => .ok (s.setTop brackets)
      | .error () => .error (s.mismatch s.top.expected (some t.lexeme) t.loc)
    else .ok s := by
  rw [observe, stateBehind, run_observeM]
  by_cases hkind : t.kind = .punctuator
  · rw [if_pos hkind, if_pos hkind, BracketStack.feed, stateBehind]
    cases hfeed : (BracketStack.feedM t.lexeme).run s.top with
    | ok _ brackets => rfl
    | error expected brackets =>
      obtain ⟨rfl, rfl⟩ := BracketStack.eq_of_run_feedM hfeed
      dsimp only
      rw [setTop_top]
      rfl
  · rw [if_neg hkind, if_neg hkind]

end ContextStack

end ImportScan
