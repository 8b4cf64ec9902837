import ImportScan.Extraction
import ImportScan.Report.Style
import ImportScan.Text.Padding

/-!
# Token traces

A trace shows every token on a line of its own, in columns of fixed width.

## Main definitions

* `traceLine` — the line of one token.
* `traceFile` — the lines of a file, each behind the name of the file.
-/

namespace ImportScan

/-- A character of a lexeme as a trace shows it: line feeds, carriage returns and tabulators are
escaped. -/
def escapeControl (c : Char) : String :=
  if c = '\r' then "\\r"
  else if c = '\n' then "\\n"
  else if c = '\t' then "\\t"
  else String.singleton c

/-- A lexeme as a trace shows it. -/
def traceLexeme (lexeme : String) : String := String.join (lexeme.toList.map escapeControl)

/-- The columns of a token, each with its width: the state of the lexer, the bytes, the number and the
name of the category, the lexeme and the number of its characters. -/
def traceCells (seen : SeenToken) : List (Nat × String) :=
  let (t, state) := seen
  [(12, state.mode.name ++ "(" ++ toString state.depth ++ ")"),
   (8, "tok[" ++ toString t.bytes ++ "]"),
   (4, toString t.kind.id),
   (16, t.kind.name),
   (32, traceLexeme t.lexeme),
   (10, toString t.lexeme.length)]

/-- The line of one token: the columns, and where the token starts. -/
def traceLine (seen : SeenToken) : String :=
  String.join ((traceCells seen).map fun cell => padRight cell.1 cell.2) ++ seen.1.loc.text

/-- The lines of a file, each behind the name of the file. -/
def traceFile (file : String) (seen : List SeenToken) : Pieces :=
  seen.flatMap fun s => [Style.dimmed.piece (file ++ ":"), plain (" " ++ traceLine s ++ "\n")]

end ImportScan
