import ImportScan.Arguments
import ImportScan.Config.Search
import ImportScan.Report
import ImportScan.Run
import ImportScan.Trace

/-!
# The command

The command either writes a configuration or scans files and reports what it has found.

## Main definitions

* `Settings.adapt`, `Arguments.entries` — what the arguments change about a configuration.
* `RunTimes` — the times that a run takes.
* `Run.Result.report`, `RunReport.timed` — what there is to tell about a run, and the times with it.
* `Command.initialise`, `Command.scan` — the two things the command does.
* `Command.run` — the command in a file tree.
-/

namespace ImportScan

/-! ### Arguments and configuration -/

/-- The settings of a configuration with what the arguments change about them. -/
def Settings.adapt (s : Settings) (a : Arguments) : Settings :=
  { language := a.language.orElse fun _ => s.language
    imports := { s.imports with follow := s.imports.follow && !a.noFollow }
    onMismatch := if a.keepGoing then .skipFile else s.onMismatch }

namespace Arguments

/-- The files to start from: those of the command line, or else that of the configuration. -/
def entries (a : Arguments) (c : Config) : List Path :=
  if a.files.isEmpty then [Path.ofString c.entry] else a.files.map Path.ofString

/-- How to report. -/
def reportOptions (a : Arguments) (timing : Bool) : ReportOptions :=
  ⟨a.format.getD .text, a.verbose, timing⟩

end Arguments

/-! ### Runs -/

/-- The times that a run takes, in nanoseconds. -/
structure RunTimes where
  /-- The time spent on each file. -/
  file : Path → Nat
  /-- The time spent on all of them. -/
  total : Nat

/-- No time is measured. -/
def RunTimes.zero : RunTimes := ⟨fun _ => 0, 0⟩

/-- Note the time spent on a file, if it has been looked at. -/
def FileModule.timed (m : FileModule) (time : Path → Nat) : FileModule :=
  match m.status with
  | .done | .failed => { m with elapsed := time m.path }
  | .pending | .inProgress => m

/-- The report with the times that have been measured. -/
def RunReport.timed (r : RunReport) (times : RunTimes) : RunReport :=
  { r with modules := r.modules.map fun m => m.timed times.file, elapsed := times.total }

namespace Run.Result

/-- What there is to tell about a run that took some nanoseconds. -/
def report (result : Run.Result) (elapsed : Nat) : RunReport :=
  { modules := result.run.modules
    issues := result.run.issues
    failure := result.error.map RunError.failure
    elapsed }

/-- The tokens seen in all files. -/
def tracePieces (result : Run.Result) : Pieces :=
  result.traces.flatMap fun (p, seen) => traceFile p.toString seen

end Run.Result

/-! ### The command -/

namespace Command

/-- What is written when nothing can be done. -/
def failed (f : Failure) : Output := ⟨f.pieces, [], .failure⟩

/-- What is written when a configuration has been. -/
def initialised : Output :=
  ⟨[successMark, plain " Created ", (Style.coloured .cyan).piece configFileName, plain "\n"], [],
    .success⟩

/-- What is wrong when there is a configuration already. -/
def alreadyThere : Failure := ⟨configFileName ++ " already exists", []⟩

/-- The text of a fresh configuration. -/
def freshConfig : String := Config.defaultText

/-- Write a configuration to a folder that has none. -/
def initialise (t : FileTree) (folder : Place) : Output × FileTree :=
  if t.finds folder configFileName then (failed alreadyThere, t)
  else (initialised, t.write (folder ++ [configFileName]) freshConfig)

/-- The start of a run. -/
def start (a : Arguments) (c : Config) : Except Failure Run :=
  match c.settings with
  | .ok settings => .ok ((Run.start (settings.adapt a)).addEntries (a.entries c))
  | .error e => .error e.failure

/-- What is written about a run. -/
def told (a : Arguments) (timing : Bool) (trace : Pieces) (report : RunReport) : Output :=
  let output := report.output (a.reportOptions timing)
  { output with stderr := (if a.trace then trace else []) ++ output.stderr }

/-- Scan files, which takes some time. -/
def scan (a : Arguments) (t : FileTree) (folder : Place) (timing : Bool) (times : RunTimes) : Output :=
  match t.loadConfig folder with
  | .error f => failed f
  | .ok c =>
    match start a c with
    | .error f => failed f
    | .ok r =>
      let result := r.drain (t.source folder)
      told a timing result.tracePieces ((result.report times.total).timed times)

/-- The command in a file tree: what it writes, and the tree behind it. -/
def run (a : Arguments) (t : FileTree) (folder : Place) (timing : Bool)
    (times : RunTimes := .zero) : Output × FileTree :=
  if a.init then initialise t folder else (scan a t folder timing times, t)

end Command

end ImportScan
