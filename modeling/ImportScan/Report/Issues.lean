import ImportScan.Issue
import ImportScan.Report.Style
import ImportScan.Text.DisplayWidth
import ImportScan.Text.Padding

/-!
# Issues as they are shown

An issue is shown with the line of the file it points to and a caret below the column.  The line numbers
of all issues share a gutter as wide as the longest of them.

## Main definitions

* `gutterWidth` — the width of the gutter for some issues.
* `issuePieces` — one issue.
* `issueReport` — all issues, in order.
-/

namespace ImportScan

/-- The colour of a severity. -/
def Severity.colour : Severity → Colour
  | .error => .red
  | .warning => .yellow

/-- The width of the gutter: that of the largest line number. -/
def gutterWidth (issues : List Issue) : Nat :=
  (toString (issues.foldl (fun line i => max line i.context.line) 0)).length

/-- The start of a line without a number: an empty gutter and a sign. -/
def gutter (width : Nat) (sign : String) : Pieces :=
  [plain (blanks width ++ " "), (Style.coloured .blue).piece sign]

/-- The width of the text before the column. -/
def caretPadding (c : SourceContext) : Nat := displayWidth (c.sourceLine.toList.take (c.column - 1))

/-- What is wrong, and its kind. -/
def issueTitle (p : Problem) : Pieces :=
  [(Style.boldColoured p.severity.colour).piece p.severity.name, plain (": " ++ p.message ++ "  "),
   (Style.dimmedColoured .cyan).piece p.rule.name, plain "\n"]

/-- Where it is. -/
def issuePlace (c : SourceContext) : Pieces :=
  [plain "  ", (Style.coloured .blue).piece "-->",
   plain (" " ++ c.file ++ ":" ++ toString c.line ++ ":" ++ toString c.column ++ "\n")]

/-- The line of the file, with its number in the gutter. -/
def sourceExcerpt (width : Nat) (c : SourceContext) : Pieces :=
  [(Style.coloured .blue).piece (padLeft width (toString c.line)), plain " ",
   (Style.coloured .blue).piece "|", plain (" " ++ c.sourceLine ++ "\n")]

/-- The caret below the column. -/
def caretLine (width : Nat) (i : Issue) : Pieces :=
  gutter width "|" ++
    [plain (" " ++ blanks (caretPadding i.context)),
     (Style.coloured i.problem.severity.colour).piece "^", plain "\n"]

/-- A remark below the line, if there is one. -/
def remark (width : Nat) (style : Style) (label : String) (text : Option String) : Pieces :=
  match text with
  | some text =>
    gutter width "=" ++ [plain " ", style.piece (label ++ ":"), plain (" " ++ text ++ "\n")]
  | none => []

/-- One issue, with a blank line behind it. -/
def issuePieces (width : Nat) (i : Issue) : Pieces :=
  issueTitle i.problem ++ issuePlace i.context ++ gutter width "|" ++ [plain "\n"] ++
    sourceExcerpt width i.context ++ caretLine width i ++
    remark width .bold "note" i.problem.details? ++
    remark width (.boldColoured .cyan) "hint" i.problem.hint? ++ [plain "\n"]

/-- All issues, in the order in which they are shown. -/
def issueReport (issues : List Issue) : Pieces :=
  (sortIssues issues).flatMap (issuePieces (gutterWidth issues))

end ImportScan
