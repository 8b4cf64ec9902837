import ImportScan.Classification
import ImportScan.Context
import ImportScan.Lexer

/-!
# Extraction

One pass over a text: every token is shown to the context stack and to the collector, and every
finished statement is read.  The pass also tells the lexer when a substitution ends.

## Main definitions

* `Extraction` — the records of a text, and the statements that could not be understood.
* `ExtractionFault` — what ends a pass early.
* `Pass`, `Pass.take` — the state of a pass, and the step for one token.
* `extract` — the whole pass.
-/

namespace ImportScan

/-- The records found in a text, each list in the order of the text. -/
structure Extraction where
  /-- The imports. -/
  imports : List ImportRecord
  /-- The exports. -/
  exports : List ExportRecord
  /-- The statements that could not be understood. -/
  malformed : List Malformed
  deriving DecidableEq, Repr, Inhabited

namespace Extraction

/-- Nothing found. -/
def empty : Extraction := ⟨[], [], []⟩

/-- Add an import. -/
def addImport (x : Extraction) (r : ImportRecord) : Extraction :=
  { x with imports := x.imports ++ [r] }

/-- Add an export. -/
def addExport (x : Extraction) (r : ExportRecord) : Extraction :=
  { x with exports := x.exports ++ [r] }

/-- Add a statement that could not be understood. -/
def addMalformed (x : Extraction) (m : Malformed) : Extraction :=
  { x with malformed := x.malformed ++ [m] }

/-- Read a finished statement.  An import without `from` binds nothing and is passed over. -/
def add (x : Extraction) (s : Statement) : Extraction :=
  match s.kind with
  | .imports =>
    if s.hasFrom then
      match s.toImport with
      | .ok r => x.addImport r
      | .error m => x.addMalformed m
    else x
  | .exports =>
    match s.toExport with
    | .ok r => x.addExport r
    | .error m => x.addMalformed m

/-- Read what the collector has finished, if anything. -/
def addAny (x : Extraction) : Option Statement → Extraction
  | some s => x.add s
  | none => x

end Extraction

/-- What ends a pass early. -/
inductive ExtractionFault where
  /-- The lexer cannot go on. -/
  | lex (e : LexError)
  /-- The brackets do not nest. -/
  | balance (m : BalanceMismatch)
  deriving DecidableEq, Repr, Inhabited

/-- A token together with the state of the lexer behind it. -/
abbrev SeenToken := Token × LexerState

/-- The state of a pass. -/
structure Pass where
  /-- The lexer. -/
  lexer : Lexer
  /-- The open brackets and substitutions. -/
  contexts : ContextStack
  /-- The statement that is being collected. -/
  collector : Collector
  /-- What has been found. -/
  found : Extraction
  /-- The tokens seen, the latest first. -/
  seen : List SeenToken
  deriving DecidableEq, Repr, Inhabited

/-- What a pass ends with. -/
structure PassResult where
  /-- The records, or what ended the pass early. -/
  outcome : Except ExtractionFault Extraction
  /-- The lexer at the end. -/
  lexer : Lexer
  /-- All tokens seen, in the order of the text. -/
  seen : List SeenToken

namespace Pass

/-- The start of a pass. -/
def ofLexer (lx : Lexer) : Pass := ⟨lx, .empty, .idle, .empty, []⟩

/-- The context stack behind the start of a substitution, if the lexer has entered code. -/
def entered (p : Pass) (after : Lexer) : ContextStack :=
  if p.lexer.state.depth < after.state.depth && after.state.mode.isCode then p.contexts.push
  else p.contexts

/-- Show a token to the context stack.  The lexer leaves its mode when a substitution ends. -/
def balance (p : Pass) (t : Token) (after : Lexer) : Except BalanceMismatch (ContextStack × Lexer) :=
  let contexts := p.entered after
  if contexts.closesSubstitution t then
    match contexts.pop t.loc with
    | .ok outer => .ok (outer, after.leave)
    | .error m => .error m
  else
    match contexts.observe t with
    | .ok next => .ok (next, after)
    | .error m => .error m

/-- The step for the token `t`, behind which the lexer is `after`. -/
def take (p : Pass) (t : Token) (after : Lexer) : Except BalanceMismatch Pass :=
  match p.balance t after with
  | .ok (contexts, lexer) =>
    let (collector, finished) := p.collector.feed t
    .ok ⟨lexer, contexts, collector, p.found.addAny finished, (t, after.state) :: p.seen⟩
  | .error m => .error m

/-- The end of the text: a statement that is still open counts as malformed, and nothing else may be
open. -/
def finish (p : Pass) : Except ExtractionFault Extraction :=
  let found :=
    match p.collector.finish.2 with
    | some s => p.found.addMalformed ⟨s.kind, .unterminated, s.loc⟩
    | none => p.found
  match p.contexts.finish p.lexer.loc with
  | .ok () => .ok found
  | .error m => .error (.balance m)

theorem balance_rest {p : Pass} {t : Token} {after lexer : Lexer} {contexts : ContextStack}
    (h : p.balance t after = .ok (contexts, lexer)) : lexer.rest = after.rest := by
  unfold balance at h
  dsimp only at h
  split at h
  · split at h
    · cases h; rfl
    · cases h
  · split at h
    · cases h; rfl
    · cases h

theorem take_rest {p next : Pass} {t : Token} {after : Lexer} (h : p.take t after = .ok next) :
    next.lexer.rest = after.rest := by
  unfold take at h
  split at h
  · rename_i contexts lexer hb
    cases h
    exact balance_rest hb
  · cases h

/-- Go on to the end of the text or to the first fault. -/
def run (p : Pass) : PassResult :=
  match hpull : p.lexer.pull with
  | .finished => ⟨p.finish, p.lexer, p.seen.reverse⟩
  | .fault e after => ⟨.error (.lex e), after, p.seen.reverse⟩
  | .token t after =>
    match htake : p.take t after with
    | .ok next =>
      have : next.lexer.rest.length < p.lexer.rest.length := by
        rw [take_rest htake]
        exact Lexer.pull_rest_lt hpull
      next.run
    | .error m => ⟨.error (.balance m), after, ((t, after.state) :: p.seen).reverse⟩
termination_by p.lexer.rest.length

end Pass

/-- Extract the records of a text. -/
def extract (l : Language) (text : List Char) : PassResult := (Pass.ofLexer (.ofText l text)).run

end ImportScan
