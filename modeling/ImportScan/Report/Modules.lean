import ImportScan.Module
import ImportScan.Report.Duration
import ImportScan.Report.Style
import ImportScan.Text.Padding

/-!
# Modules as they are shown

## Main definitions

* `modulePieces` — one file with its counts, and with all that was found in it when details are wanted.
* `importListing` — the imports of the files that have been processed, as statements.
-/

namespace ImportScan

/-! ### Counts -/

/-- A number of things. -/
def countOf (n : Nat) (noun : String) : String :=
  toString n ++ " " ++ noun ++ if n = 1 then "" else "s"

/-- How far a file has come, as it is shown. -/
def ModuleStatus.piece : ModuleStatus → Piece
  | .done => (Style.coloured .green).piece "done"
  | .failed => (Style.coloured .red).piece "failed"
  | .pending => Style.dimmed.piece "pending"
  | .inProgress => (Style.coloured .yellow).piece "in progress"

/-- The line of a file. -/
def moduleLine (m : FileModule) : Pieces :=
  [Style.bold.piece m.name, plain " ", m.status.piece,
   plain ("  " ++ countOf m.imports.length "import" ++ ", " ++ countOf m.exports.length "export" ++
     ", " ++ countOf m.segments.length "segment" ++ "\n")]

/-! ### Details -/

/-- The start of a line for something found in a file: what it is, where it is and its form. -/
def recordStart (label : String) (loc : Location) (kind : String) : Pieces :=
  [plain "  ", (Style.coloured .cyan).piece label,
   plain (" " ++ padRight 8 loc.text ++ " " ++ padRight 10 kind ++ " ")]

/-- The line of an import. -/
def importLine (r : ImportRecord) : Pieces :=
  recordStart "import" r.loc r.bindings.kindName ++
    [plain (r.specifier ++ " "),
     Style.dimmed.piece ("[" ++ ", ".intercalate r.bindings.locals ++ "]"), plain "\n"]

/-- The line of an export. -/
def exportLine (r : ExportRecord) : Pieces :=
  recordStart "export" r.loc r.kind.name ++ [plain (r.exported ++ "\n")]

/-- The line of a segment. -/
def segmentLine (s : Segment) : Pieces :=
  [plain "  ", (Style.coloured .blue).piece "segment",
   plain (" " ++ padRight 6 s.kind.name ++ " " ++ padLeft 6 (toString s.range.start) ++ ".." ++
     padRight 6 (toString s.range.stop) ++ " " ++ padLeft 6 (toString s.length) ++ " bytes\n")]

/-- The line of the time spent on a file, unless the file has not been looked at. -/
def elapsedLine (timing : Bool) (m : FileModule) : Pieces :=
  if timing && m.status != .pending then
    [plain "  ", Style.dimmed.piece "took", plain (" " ++ durationText m.elapsed ++ "\n")]
  else []

/-- All that was found in a file. -/
def moduleDetails (timing : Bool) (m : FileModule) : Pieces :=
  m.imports.flatMap importLine ++ m.exports.flatMap exportLine ++ m.segments.flatMap segmentLine ++
    elapsedLine timing m

/-- A file, with details when they are wanted. -/
def modulePieces (verbose timing : Bool) (m : FileModule) : Pieces :=
  moduleLine m ++ if verbose then moduleDetails timing m else []

/-! ### Listings -/

/-- The imports of the files that have been processed, each file behind a comment with its name. -/
def importListing (render : ImportRecord → String) (modules : List FileModule) : String :=
  String.join <| (modules.filter fun m => m.status == .done).map fun m =>
    "// " ++ m.name ++ "\n" ++ String.join (m.imports.map fun r => render r ++ "\n")

end ImportScan
