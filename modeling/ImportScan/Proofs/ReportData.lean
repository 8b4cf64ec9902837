import ImportScan.Proofs.IssueOrder
import ImportScan.Proofs.JsonReader
import ImportScan.Report

/-!
# What a report as data tells

A report in the format of data is one JSON value, from which all that was found can be told again:
the files with their imports, exports and segments, and the issues in the order in which they are
shown.

## Main definitions

* `JsonValue.field?`, `JsonValue.items?` — the parts of objects and arrays.
* `ModuleData`, `IssueData`, `ReportData` — what can be told about a file, an issue and a run.
* `ReportData.ofJson?` — reading it from a value.

## Main results

* `ImportRecord.ofJson?_toJson`, `ModuleData.ofJson?_toJson`, `IssueData.ofJson?_toJson` — what is
  written of an import, a file or an issue is read back.
* `RunReport.tells_data` — **a report as data tells all that was found, and nothing else**.
-/

namespace ImportScan

/-! ### Parts of a value -/

namespace JsonValue

/-- The number, if it is one. -/
def number? : JsonValue → Option Nat
  | number n => some n
  | _ => none

/-- The string, if it is one. -/
def string? : JsonValue → Option String
  | string s => some s
  | _ => none

/-- The items of an array, each read in the same way. -/
def items? {α : Type} (read : JsonValue → Option α) : JsonValue → Option (List α)
  | array items => items.mapM read
  | _ => none

/-- The member of an object with a name, read in some way. -/
def field? {α : Type} (name : String) (read : JsonValue → Option α) : JsonValue → Option α
  | object members => (members.find? fun m => m.1 == name).bind fun m => read m.2
  | _ => none

/-- The value that a string names. -/
def key? {α : Type} (ofKey? : String → Option α) (v : JsonValue) : Option α := v.string?.bind ofKey?

theorem items?_array_map {α β : Type} {read : JsonValue → Option β} {write : α → JsonValue}
    {f : α → β} (h : ∀ a, read (write a) = some (f a)) (as : List α) :
    items? read (.array (as.map write)) = some (as.map f) := by
  rw [items?]
  induction as with
  | nil => rfl
  | cons a as ih => simp [h, ih]

theorem items?_array_map_self {α : Type} {read : JsonValue → Option α} {write : α → JsonValue}
    (h : ∀ a, read (write a) = some a) (as : List α) :
    items? read (.array (as.map write)) = some as := by
  rw [items?_array_map h, List.map_id']

end JsonValue

open JsonValue

/-! ### Records -/

/-- Read a span. -/
def Span.ofJson? (v : JsonValue) : Option Span := do
  return ⟨← v.field? "start" number?, ← v.field? "end" number?⟩

theorem Span.ofJson?_toJson (s : Span) : ofJson? s.toJson = some s := rfl

/-- Read a place. -/
def Location.ofJson? (v : JsonValue) : Option Location := do
  return ⟨← v.field? "line" number?, ← v.field? "column" number?, ← v.field? "offset" number?⟩

theorem Location.ofJson?_toJson (loc : Location) : ofJson? loc.toJson = some loc := rfl

/-- Read an entry of a list of imported names. -/
def Binding.ofJson? (v : JsonValue) : Option Binding := do
  return ⟨← v.field? "imported" string?, ← v.field? "local" string?⟩

theorem Binding.ofJson?_toJson (b : Binding) : ofJson? b.toJson = some b := rfl

/-- Read what an import brings in, given the name of its form. -/
def Bindings.ofJson? (kind : String) (v : JsonValue) : Option Bindings :=
  match kind with
  | "namespace" => v.string?.map .everything
  | "default" => v.string?.map .defaultOnly
  | "named" => (v.items? Binding.ofJson?).map .named
  | _ => none

theorem Bindings.ofJson?_toJson (b : Bindings) : ofJson? b.kindName b.toJson = some b := by
  cases b with
  | everything name => rfl
  | defaultOnly name => rfl
  | named list =>
    rw [kindName, toJson, ofJson?, items?_array_map_self Binding.ofJson?_toJson]
    rfl

/-- Read an import. -/
def ImportRecord.ofJson? (v : JsonValue) : Option ImportRecord := do
  let kind ← v.field? "kind" string?
  return {
    bindings := ← v.field? "bindings" (Bindings.ofJson? kind)
    specifier := ← v.field? "specifier" string?
    range := ← v.field? "range" Span.ofJson?
    loc := ← v.field? "loc" Location.ofJson?
    code := ← v.field? "code" string? }

theorem ImportRecord.ofJson?_toJson (r : ImportRecord) : ofJson? r.toJson = some r := by
  have hbindings : field? "bindings" (Bindings.ofJson? r.bindings.kindName) r.toJson
      = some r.bindings := r.bindings.ofJson?_toJson
  have hkind : field? "kind" string? r.toJson = some r.bindings.kindName := rfl
  simp only [ofJson?, Option.bind_eq_bind, hkind, Option.bind_some, hbindings]
  rfl

/-- Read an export. -/
def ExportRecord.ofJson? (v : JsonValue) : Option ExportRecord := do
  return {
    kind := ← v.field? "kind" (key? ExportKind.ofKey?)
    declaration := ← v.field? "declaration" string?
    exported := ← v.field? "exported" string?
    range := ← v.field? "range" Span.ofJson?
    loc := ← v.field? "loc" Location.ofJson?
    code := ← v.field? "code" string? }

theorem ExportRecord.ofJson?_toJson (r : ExportRecord) : ofJson? r.toJson = some r := by
  have hkind : field? "kind" (key? ExportKind.ofKey?) r.toJson = some r.kind := r.kind.ofKey?_key
  simp only [ofJson?, Option.bind_eq_bind, hkind, Option.bind_some]
  rfl

/-- What a segment holds, by its name. -/
def SegmentKind.ofName? : String → Option SegmentKind
  | "import" => some .imports
  | "text" => some .text
  | _ => none

theorem SegmentKind.ofName?_name (k : SegmentKind) : ofName? k.name = some k := by cases k <;> rfl

/-- Read a segment. -/
def Segment.ofJson? (v : JsonValue) : Option Segment := do
  return {
    kind := ← v.field? "kind" (key? SegmentKind.ofName?)
    range := ← v.field? "range" Span.ofJson?
    text := ← v.field? "text" string? }

theorem Segment.ofJson?_toJson (s : Segment) : ofJson? s.toJson = some s := by
  have hkind : field? "kind" (key? SegmentKind.ofName?) s.toJson = some s.kind :=
    s.kind.ofName?_name
  simp only [ofJson?, Option.bind_eq_bind, hkind, Option.bind_some]
  rfl

/-! ### Files -/

/-- What can be told about a file. -/
structure ModuleData where
  /-- The path, as it is shown. -/
  path : String
  /-- How far it has come. -/
  status : ModuleStatus
  /-- The imports. -/
  imports : List ImportRecord
  /-- The exports. -/
  exports : List ExportRecord
  /-- The segments. -/
  segments : List Segment
  /-- Where each segment starts. -/
  offsets : List Nat
  /-- The number of bytes of each segment. -/
  lengths : List Nat
  deriving DecidableEq, Repr, Inhabited

/-- What is told about a file. -/
def FileModule.data (m : FileModule) : ModuleData :=
  { path := m.name
    status := m.status
    imports := m.imports
    exports := m.exports
    segments := m.segments
    offsets := m.segments.map fun s => s.range.start
    lengths := m.segments.map fun s => s.range.length }

/-- Read what is told about a file. -/
def ModuleData.ofJson? (v : JsonValue) : Option ModuleData := do
  return {
    path := ← v.field? "path" string?
    status := ← v.field? "status" (key? ModuleStatus.ofKey?)
    imports := ← v.field? "imports" (items? ImportRecord.ofJson?)
    exports := ← v.field? "exports" (items? ExportRecord.ofJson?)
    segments := ← v.field? "segments" (items? Segment.ofJson?)
    offsets := ← v.field? "offsets" (items? number?)
    lengths := ← v.field? "lengths" (items? number?) }

theorem ModuleData.ofJson?_toJson (m : FileModule) : ofJson? m.toJson = some m.data := by
  -- each field is found under its key and read back by itself
  have hpath : field? "path" string? m.toJson = some m.name := rfl
  have hstatus : field? "status" (key? ModuleStatus.ofKey?) m.toJson = some m.status :=
    m.status.ofKey?_key
  have himports : field? "imports" (items? ImportRecord.ofJson?) m.toJson = some m.imports :=
    items?_array_map_self ImportRecord.ofJson?_toJson m.imports
  have hexports : field? "exports" (items? ExportRecord.ofJson?) m.toJson = some m.exports :=
    items?_array_map_self ExportRecord.ofJson?_toJson m.exports
  have hsegments : field? "segments" (items? Segment.ofJson?) m.toJson = some m.segments :=
    items?_array_map_self Segment.ofJson?_toJson m.segments
  have hnumber : ∀ n, number? (.number n) = some n := fun _ => rfl
  have hoffsets : field? "offsets" (items? number?) m.toJson = some m.offsets :=
    items?_array_map_self hnumber m.offsets
  have hlengths : field? "lengths" (items? number?) m.toJson = some m.lengths :=
    items?_array_map_self hnumber m.lengths
  simp only [ofJson?, Option.bind_eq_bind, hpath, hstatus, himports, hexports, hsegments, hoffsets,
    hlengths, Option.bind_some]
  rfl

/-! ### Issues -/

/-- The severity with a given name. -/
def Severity.ofName? : String → Option Severity
  | "error" => some .error
  | "warning" => some .warning
  | _ => none

theorem Severity.ofName?_name (s : Severity) : ofName? s.name = some s := by cases s <;> rfl

/-- The kind of problem with a given name. -/
def Rule.ofName? : String → Option Rule
  | "lex-error" => some .lexError
  | "balance-mismatch" => some .balanceMismatch
  | "malformed-import" => some .malformedImport
  | "malformed-export" => some .malformedExport
  | "unresolved-specifier" => some .unresolvedSpecifier
  | _ => none

theorem Rule.ofName?_name (r : Rule) : ofName? r.name = some r := by cases r <;> rfl

/-- What can be told about an issue. -/
structure IssueData where
  /-- How bad it is. -/
  severity : Severity
  /-- Its kind. -/
  rule : Rule
  /-- The name of the file. -/
  file : String
  /-- The line. -/
  line : Nat
  /-- The column. -/
  column : Nat
  /-- The wording. -/
  message : String
  deriving DecidableEq, Repr, Inhabited

/-- What is told about an issue. -/
def Issue.data (i : Issue) : IssueData :=
  { severity := i.problem.severity
    rule := i.problem.rule
    file := i.context.file
    line := i.context.line
    column := i.context.column
    message := i.problem.message }

/-- Read what is told about an issue. -/
def IssueData.ofJson? (v : JsonValue) : Option IssueData := do
  return {
    severity := ← v.field? "severity" (key? Severity.ofName?)
    rule := ← v.field? "rule" (key? Rule.ofName?)
    file := ← v.field? "file" string?
    line := ← v.field? "line" number?
    column := ← v.field? "col" number?
    message := ← v.field? "message" string? }

theorem IssueData.ofJson?_toJson (i : Issue) : ofJson? i.toJson = some i.data := by
  have hseverity : field? "severity" (key? Severity.ofName?) i.toJson = some i.problem.severity :=
    i.problem.severity.ofName?_name
  have hrule : field? "rule" (key? Rule.ofName?) i.toJson = some i.problem.rule :=
    i.problem.rule.ofName?_name
  simp only [ofJson?, Option.bind_eq_bind, hseverity, hrule, Option.bind_some]
  rfl

/-! ### Reports -/

/-- What can be told about a run. -/
structure ReportData where
  /-- The files. -/
  modules : List ModuleData
  /-- The issues. -/
  issues : List IssueData
  deriving DecidableEq, Repr, Inhabited

/-- Read what is told about a run. -/
def ReportData.ofJson? (v : JsonValue) : Option ReportData := do
  return {
    modules := ← v.field? "modules" (items? ModuleData.ofJson?)
    issues := ← v.field? "issues" (items? IssueData.ofJson?) }

/-- What is told about a run: the issues in the order in which they are shown. -/
def RunReport.data (r : RunReport) : ReportData :=
  { modules := r.modules.map FileModule.data
    issues := (sortIssues r.issues).map Issue.data }

theorem ReportData.ofJson?_reportJson (r : RunReport) :
    ofJson? (reportJson r.modules r.issues) = some r.data := by
  have hmodules : field? "modules" (items? ModuleData.ofJson?) (reportJson r.modules r.issues)
      = some (r.modules.map FileModule.data) :=
    items?_array_map ModuleData.ofJson?_toJson r.modules
  have hissues : field? "issues" (items? IssueData.ofJson?) (reportJson r.modules r.issues)
      = some ((sortIssues r.issues).map Issue.data) :=
    items?_array_map IssueData.ofJson?_toJson (sortIssues r.issues)
  simp only [ofJson?, Option.bind_eq_bind, hmodules, hissues, Option.bind_some]
  rfl

/-! ### What is written -/

/-- What is told about a file, as data. -/
def ModuleData.toJson (d : ModuleData) : JsonValue :=
  .object
    [("path", .string d.path), ("status", .string d.status.key),
     ("imports", .array (d.imports.map ImportRecord.toJson)),
     ("exports", .array (d.exports.map ExportRecord.toJson)),
     ("segments", .array (d.segments.map Segment.toJson)),
     ("offsets", numbersJson d.offsets), ("lengths", numbersJson d.lengths)]

/-- What is told about an issue, as data. -/
def IssueData.toJson (d : IssueData) : JsonValue :=
  .object
    [("severity", .string d.severity.name), ("rule", .string d.rule.name),
     ("file", .string d.file), ("line", .number d.line), ("col", .number d.column),
     ("message", .string d.message)]

/-- What is told about a run, as data. -/
def ReportData.toJson (d : ReportData) : JsonValue :=
  .object
    [("modules", .array (d.modules.map ModuleData.toJson)),
     ("issues", .array (d.issues.map IssueData.toJson))]

/-- No more is written than what is told. -/
theorem RunReport.toJson_data (r : RunReport) :
    r.data.toJson = reportJson r.modules r.issues := by
  rw [ReportData.toJson, data, List.map_map, List.map_map]
  rfl

/-- The text of a report as data. -/
theorem RunReport.render_body_json {r : RunReport} (h : r.isData = true)
    (colours verbose timing : Bool) : render colours (r.body ⟨.json, verbose, timing⟩)
      = (reportJson r.modules r.issues).pretty ++ "\n" := by
  rw [body]
  dsimp only
  rw [if_pos h, render, List.map_singleton, String.join_cons, String.join_nil, String.append_empty]
  rfl

/-- What is written where a report cannot be written as data is no data. -/
theorem RunReport.read?_render_body_json {r : RunReport} (h : r.isData = false)
    (colours verbose timing : Bool) :
    JsonValue.read? (render colours (r.body ⟨.json, verbose, timing⟩)) = none := by
  rw [body]
  dsimp only
  rw [h, if_neg Bool.false_ne_true]
  cases colours <;> decide +kernel

end ImportScan
