import ImportScan.Partition
import ImportScan.Path
import ImportScan.Record

/-!
# Modules

## Main definitions

* `ModuleStatus` — how far a file has come.
* `FileModule` — a file of a run, with all that was found in it.
-/

namespace ImportScan

/-- How far a file has come. -/
inductive ModuleStatus where
  /-- It waits. -/
  | pending
  /-- It is being processed. -/
  | inProgress
  /-- It has been processed. -/
  | done
  /-- It could not be processed. -/
  | failed
  deriving DecidableEq, Repr, Inhabited

namespace ModuleStatus

/-- The name of a status in data. -/
def key : ModuleStatus → String
  | .pending => "pending"
  | .inProgress => "inProgress"
  | .done => "done"
  | .failed => "failed"

/-- The status with a given name in data. -/
def ofKey? : String → Option ModuleStatus
  | "pending" => some .pending
  | "inProgress" => some .inProgress
  | "done" => some .done
  | "failed" => some .failed
  | _ => none

theorem ofKey?_key (s : ModuleStatus) : ofKey? s.key = some s := by cases s <;> rfl

end ModuleStatus

/-- A file of a run. -/
structure FileModule where
  /-- The path. -/
  path : Path
  /-- The path as it is shown. -/
  name : String := path.toString
  /-- How far it has come. -/
  status : ModuleStatus := .pending
  /-- The text, empty until it has been read. -/
  buffer : String := ""
  /-- The imports. -/
  imports : List ImportRecord := []
  /-- The exports. -/
  exports : List ExportRecord := []
  /-- The segments. -/
  segments : List Segment := []
  /-- The time spent on it, in nanoseconds. -/
  elapsed : Nat := 0
  deriving DecidableEq, Repr, Inhabited

namespace FileModule

/-- The text that the segments make up. -/
def reassembled (m : FileModule) : String := reassemble m.segments

/-- Where each segment starts. -/
def offsets (m : FileModule) : List Nat := m.segments.map fun s => s.range.start

/-- The number of bytes of each segment. -/
def lengths (m : FileModule) : List Nat := m.segments.map Segment.length

end FileModule

end ImportScan
