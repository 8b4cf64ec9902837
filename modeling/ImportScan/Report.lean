import ImportScan.Failure
import ImportScan.Report.Format
import ImportScan.Report.Issues
import ImportScan.Report.Json
import ImportScan.Report.Modules

/-!
# Reports

What a run has found goes to the two output streams, in one of several formats.  A failure that stopped
the run is told at the end, whatever the format.

## Main definitions

* `RunReport` — all there is to tell about a run.
* `Failure.pieces` — what stopped the program, as it is shown.
* `Output`, `RunReport.output` — what is written to the two streams, and the exit status.
-/

namespace ImportScan

/-! ### What there is to tell -/

/-- All there is to tell about a run. -/
structure RunReport where
  /-- The files, in the order in which they were scheduled. -/
  modules : List FileModule
  /-- The issues, in the order in which they were found. -/
  issues : List Issue
  /-- What stopped the run, if anything. -/
  failure : Option Failure
  /-- The time spent, in nanoseconds. -/
  elapsed : Nat
  deriving DecidableEq, Repr, Inhabited

/-- How to tell it. -/
structure ReportOptions where
  /-- The format. -/
  format : OutputFormat
  /-- Whether details are wanted. -/
  verbose : Bool
  /-- Whether times are shown. -/
  timing : Bool
  deriving DecidableEq, Repr, Inhabited

/-- How the program ends. -/
inductive ExitStatus where
  /-- All went well. -/
  | success
  /-- Something stopped the run. -/
  | failure
  /-- The arguments make no sense. -/
  | usage
  deriving DecidableEq, Repr, Inhabited

/-- The number of an exit status. -/
def ExitStatus.code : ExitStatus → Nat
  | .success => 0
  | .failure => 1
  | .usage => 2

/-- What is written. -/
structure Output where
  /-- To the standard output. -/
  stdout : Pieces
  /-- To the standard error output. -/
  stderr : Pieces
  /-- How the program ends. -/
  status : ExitStatus
  deriving DecidableEq, Repr, Inhabited

/-! ### Telling it -/

/-- The mark of success. -/
def successMark : Piece := (Style.coloured .green).piece "✓"

/-- The mark of failure. -/
def failureMark : Piece := (Style.coloured .red).piece "✘"

/-- A failure with its causes. -/
def Failure.pieces (f : Failure) : Pieces :=
  [(Style.boldColoured .red).piece "FAIL:", plain (" " ++ f.message ++ "\n")] ++
    f.causes.flatMap fun cause =>
      [plain "  ", Style.dimmed.piece "caused by:", plain (" " ++ cause ++ "\n")]

namespace RunReport

/-- The number of files that have been looked at. -/
def processed (r : RunReport) : Nat :=
  (r.modules.filter fun m => m.status == .done || m.status == .failed).length

/-- The number of errors among the issues. -/
def errorCount (r : RunReport) : Nat :=
  (r.issues.filter fun i => i.problem.severity == .error).length

/-- The files that have been looked at, and the time spent on them. -/
def processedText (r : RunReport) (timing : Bool) : String :=
  "Processed " ++ countOf r.processed "file" ++
    if timing then " in " ++ durationText r.elapsed else ""

/-- The summary when there are no issues; a failure speaks for itself. -/
def cleanSummary (r : RunReport) (timing : Bool) : Pieces :=
  if r.failure.isSome then []
  else
    [successMark, plain " ",
     (Style.coloured .green).piece (r.processedText timing ++ " - no issues found"), plain "\n"]

/-- The summary when there are issues. -/
def issueSummary (r : RunReport) (timing : Bool) : Pieces :=
  let errors := r.errorCount
  let warnings := r.issues.length - errors
  [failureMark,
   plain (" " ++ r.processedText timing ++ ": " ++ toString (errors + warnings) ++ " problems (" ++
     toString errors ++ " "),
   (Style.coloured .red).piece (if errors = 1 then "error" else "errors"),
   plain (", " ++ toString warnings ++ " "),
   (Style.coloured .yellow).piece (if warnings = 1 then "warning" else "warnings"), plain ")\n"]

/-- The summary. -/
def summary (r : RunReport) (timing : Bool) : Pieces :=
  if r.issues.isEmpty then r.cleanSummary timing else r.issueSummary timing

/-- Whether the report can be written as data: all paths are texts. -/
def isData (r : RunReport) : Bool := r.modules.all fun m => m.path.isText

/-- What is written where the report cannot be written as data. -/
def notData : Pieces :=
  [(Style.coloured .red).piece "error:",
   plain " failed to serialize report: path contains invalid UTF-8 characters\n"]

/-- What a format writes to the standard output, apart from a failure. -/
def body (r : RunReport) (options : ReportOptions) : Pieces :=
  match options.format with
  | .text =>
    r.modules.flatMap (modulePieces options.verbose options.timing) ++ issueReport r.issues ++
      r.summary options.timing
  | .json =>
    if r.isData then [plain ((reportJson r.modules r.issues).pretty ++ "\n")] else notData
  | .es6 => [plain (importListing ImportRecord.esText r.modules)]
  | .cjs => [plain (importListing ImportRecord.requireText r.modules)]

/-- What a format writes to the standard error output. -/
def remarks (r : RunReport) (options : ReportOptions) : Pieces :=
  match options.format with
  | .text => []
  | .json => []
  | .es6 => issueReport r.issues
  | .cjs => issueReport r.issues

/-- What is written about a run. -/
def output (r : RunReport) (options : ReportOptions) : Output :=
  { stdout := r.body options ++ (r.failure.map Failure.pieces).getD []
    stderr := r.remarks options
    status := if r.failure.isSome then .failure else .success }

end RunReport

end ImportScan
