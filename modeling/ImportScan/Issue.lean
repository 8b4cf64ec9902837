import ImportScan.Context
import ImportScan.Statement

/-!
# Issues

Every problem found in a file becomes an issue: what is wrong, and where.  An issue carries all that is
needed to show it.

## Main definitions

* `Severity`, `Rule` — how bad a problem is, and its kind.
* `SourceContext` — a place in a file, with the text of its line.
* `Problem`, `Issue` — what is wrong, and the same with its place.
* `Issue.precedes`, `sortIssues` — the order in which issues are shown.
-/

namespace ImportScan

/-! ### Severities and rules -/

/-- How bad a problem is. -/
inductive Severity where
  /-- The file could not be processed. -/
  | error
  /-- A part of the file was passed over. -/
  | warning
  deriving DecidableEq, Repr, Inhabited

/-- The name of a severity. -/
def Severity.name : Severity → String
  | .error => "error"
  | .warning => "warning"

/-- The kinds of problems, in the order in which those at one place are shown. -/
inductive Rule where
  /-- A token cannot be read. -/
  | lexError
  /-- Brackets do not nest. -/
  | balanceMismatch
  /-- An import statement cannot be understood. -/
  | malformedImport
  /-- An export statement cannot be understood. -/
  | malformedExport
  /-- An import names no file. -/
  | unresolvedSpecifier
  deriving DecidableEq, Repr, Inhabited

namespace Rule

/-- The name of a kind of problem. -/
def name : Rule → String
  | .lexError => "lex-error"
  | .balanceMismatch => "balance-mismatch"
  | .malformedImport => "malformed-import"
  | .malformedExport => "malformed-export"
  | .unresolvedSpecifier => "unresolved-specifier"

/-- The place of a kind of problem among those at one place. -/
def rank : Rule → Nat
  | .lexError => 0
  | .balanceMismatch => 1
  | .malformedImport => 2
  | .malformedExport => 3
  | .unresolvedSpecifier => 4

end Rule

/-! ### Problems -/

/-- What is wrong in a file. -/
inductive Problem where
  /-- A token cannot be read. -/
  | lex (message : String)
  /-- Brackets do not nest. -/
  | balance (m : BalanceMismatch)
  /-- A statement cannot be understood. -/
  | malformed (kind : StatementKind) (reason : String)
  /-- An import names no file. -/
  | unresolved (specifier resolved : String)
  deriving DecidableEq, Repr, Inhabited

namespace Problem

/-- How bad the problem is. -/
def severity : Problem → Severity
  | lex _ => .error
  | balance _ => .error
  | malformed .. => .warning
  | unresolved .. => .warning

/-- The kind of the problem. -/
def rule : Problem → Rule
  | lex _ => .lexError
  | balance _ => .balanceMismatch
  | malformed .imports _ => .malformedImport
  | malformed .exports _ => .malformedExport
  | unresolved .. => .unresolvedSpecifier

/-- The wording of a mismatch. -/
def mismatchMessage (m : BalanceMismatch) : String :=
  match m.found, m.expected with
  | some found, some expected => "found '" ++ found ++ "' where '" ++ expected ++ "' was expected"
  | some found, none => "found '" ++ found ++ "' with no open bracket"
  | none, some expected => "end of input where '" ++ expected ++ "' was expected"
  | none, none => "end of input inside an open context"

/-- The wording of the problem. -/
def message : Problem → String
  | lex message => message
  | balance m => mismatchMessage m
  | malformed _ reason => reason
  | unresolved specifier _ => "cannot resolve '" ++ specifier ++ "'"

/-- What else is worth knowing. -/
def details? : Problem → Option String
  | lex _ => some "the rest of this file was not scanned"
  | balance m => if m.stack.isEmpty then none else some ("open: [ " ++ m.stackText ++ " ]")
  | malformed kind _ => some ("the " ++ kind.keyword ++ " statement was skipped")
  | unresolved _ resolved => some ("no file at " ++ resolved)

/-- How the problem might be solved. -/
def hint? : Problem → Option String
  | unresolved .. => some "add the file, or exclude it with \x60ignores\x60 in .modsplitrc.json"
  | _ => none

end Problem

/-! ### Issues -/

/-- A place in a file. -/
structure SourceContext where
  /-- The name of the file. -/
  file : String
  /-- The line, counted from one. -/
  line : Nat
  /-- The column in characters, counted from one. -/
  column : Nat
  /-- The text of the line. -/
  sourceLine : String
  deriving DecidableEq, Repr, Inhabited

/-- A problem and its place. -/
structure Issue where
  /-- The place. -/
  context : SourceContext
  /-- What is wrong there. -/
  problem : Problem
  deriving DecidableEq, Repr, Inhabited

namespace Issue

/-- The order of two issues: by file, line, column, kind and wording. -/
def compare (a b : Issue) : Ordering :=
  (Ord.compare a.context.file b.context.file).then <|
    (Ord.compare a.context.line b.context.line).then <|
      (Ord.compare a.context.column b.context.column).then <|
        (Ord.compare a.problem.rule.rank b.problem.rule.rank).then <|
          Ord.compare a.problem.message b.problem.message

/-- Whether an issue may be shown before another one. -/
def precedes (a b : Issue) : Bool := (a.compare b).isLE

end Issue

/-- The issues in the order in which they are shown; those that compare equal keep their order. -/
def sortIssues (issues : List Issue) : List Issue := issues.mergeSort Issue.precedes

end ImportScan
