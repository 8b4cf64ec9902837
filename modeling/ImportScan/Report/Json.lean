import ImportScan.Issue
import ImportScan.Json.Value
import ImportScan.Module

/-!
# Reports as data

## Main definitions

* `FileModule.toJson` — a file with all that was found in it.
* `Issue.toJson` — an issue.
* `reportJson` — the files and the issues of a run.
-/

namespace ImportScan

/-- A span as data. -/
def Span.toJson (s : Span) : JsonValue :=
  .object [("start", .number s.start), ("end", .number s.stop)]

/-- A place as data. -/
def Location.toJson (loc : Location) : JsonValue :=
  .object [("line", .number loc.line), ("column", .number loc.column), ("offset", .number loc.offset)]

/-- One entry of a list of imported names as data. -/
def Binding.toJson (b : Binding) : JsonValue :=
  .object [("imported", .string b.imported), ("local", .string b.localName)]

/-- What an import brings in, as data. -/
def Bindings.toJson : Bindings → JsonValue
  | .everything name => .string name
  | .defaultOnly name => .string name
  | .named list => .array (list.map Binding.toJson)

/-- An import as data. -/
def ImportRecord.toJson (r : ImportRecord) : JsonValue :=
  .object
    [("kind", .string r.bindings.kindName), ("bindings", r.bindings.toJson),
     ("specifier", .string r.specifier), ("range", r.range.toJson), ("loc", r.loc.toJson),
     ("code", .string r.code)]

/-- An export as data. -/
def ExportRecord.toJson (r : ExportRecord) : JsonValue :=
  .object
    [("kind", .string r.kind.key), ("declaration", .string r.declaration),
     ("exported", .string r.exported), ("range", r.range.toJson), ("loc", r.loc.toJson),
     ("code", .string r.code)]

/-- A segment as data. -/
def Segment.toJson (s : Segment) : JsonValue :=
  .object [("kind", .string s.kind.name), ("range", s.range.toJson), ("text", .string s.text)]

/-- Some numbers as data. -/
def numbersJson (ns : List Nat) : JsonValue := .array (ns.map .number)

/-- A file as data. -/
def FileModule.toJson (m : FileModule) : JsonValue :=
  .object
    [("path", .string m.name), ("status", .string m.status.key),
     ("imports", .array (m.imports.map ImportRecord.toJson)),
     ("exports", .array (m.exports.map ExportRecord.toJson)),
     ("segments", .array (m.segments.map Segment.toJson)),
     ("offsets", numbersJson m.offsets), ("lengths", numbersJson m.lengths)]

/-- An issue as data. -/
def Issue.toJson (i : Issue) : JsonValue :=
  .object
    [("severity", .string i.problem.severity.name), ("rule", .string i.problem.rule.name),
     ("file", .string i.context.file), ("line", .number i.context.line),
     ("col", .number i.context.column), ("message", .string i.problem.message)]

/-- The files of a run and its issues, these in the order in which they are shown. -/
def reportJson (modules : List FileModule) (issues : List Issue) : JsonValue :=
  .object
    [("modules", .array (modules.map FileModule.toJson)),
     ("issues", .array ((sortIssues issues).map Issue.toJson))]

end ImportScan
