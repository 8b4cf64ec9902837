import ImportScan.Text.Location

/-!
# Records of imports and exports

## Main definitions

* `Binding`, `Bindings` — the names that an import brings in.
* `ImportRecord` — an import, with its two renderings.
* `ExportRecord` — an export.
-/

namespace ImportScan

/-! ### Bindings -/

/-- One entry of a list of imported names. -/
structure Binding where
  /-- The name on the exporting side. -/
  imported : String
  /-- The name on the importing side. -/
  localName : String
  deriving DecidableEq, Repr, Inhabited

namespace Binding

/-- The entry with a sign between the two names, or the name alone when both are equal. -/
def render (sign : String) (b : Binding) : String :=
  if b.imported = b.localName then b.localName else b.imported ++ sign ++ b.localName

/-- The entry of an import statement. -/
def esText (b : Binding) : String := b.render " as "

/-- The entry of a destructuring pattern. -/
def requireText (b : Binding) : String := b.render ": "

end Binding

/-- What an import brings in. -/
inductive Bindings where
  /-- The whole module, under one name. -/
  | everything (localName : String)
  /-- The default export. -/
  | defaultOnly (localName : String)
  /-- A list of names. -/
  | named (list : List Binding)
  deriving DecidableEq, Repr, Inhabited

namespace Bindings

/-- The name of the form of the import. -/
def kindName : Bindings → String
  | .everything _ => "namespace"
  | .defaultOnly _ => "default"
  | .named _ => "named"

/-- The names on the importing side. -/
def locals : Bindings → List String
  | .everything name => [name]
  | .defaultOnly name => [name]
  | .named list => list.map Binding.localName

end Bindings

/-! ### Imports -/

/-- An import statement that has been understood. -/
structure ImportRecord where
  /-- What is imported. -/
  bindings : Bindings
  /-- Where from, without its quotes. -/
  specifier : String
  /-- The offsets of the statement. -/
  range : Span
  /-- Where the statement starts. -/
  loc : Location
  /-- The text of the statement. -/
  code : String
  deriving DecidableEq, Repr, Inhabited

namespace ImportRecord

/-- A list of entries between braces. -/
def braced (entries : List String) : String := "\x7b " ++ ", ".intercalate entries ++ " \x7d"

/-- The specifier between single quotes. -/
def quotedSpecifier (r : ImportRecord) : String := "'" ++ r.specifier ++ "'"

/-- The import as an import statement. -/
def esText (r : ImportRecord) : String :=
  let clause :=
    match r.bindings with
    | .everything name => "* as " ++ name
    | .defaultOnly name => name
    | .named list => braced (list.map Binding.esText)
  "import " ++ clause ++ " from " ++ r.quotedSpecifier ++ ";"

/-- The import as a call of `require`. -/
def requireText (r : ImportRecord) : String :=
  let pattern :=
    match r.bindings with
    | .everything name => name
    | .defaultOnly name => name
    | .named list => braced (list.map Binding.requireText)
  "const " ++ pattern ++ " = require(" ++ r.quotedSpecifier ++ ");"

end ImportRecord

/-! ### Exports -/

/-- The form of an export. -/
inductive ExportKind where
  /-- Names of another module are passed on. -/
  | reExport
  /-- The default export. -/
  | default
  /-- Declarations and lists of names. -/
  | named
  deriving DecidableEq, Repr, Inhabited

namespace ExportKind

/-- The name of the form in a listing. -/
def name : ExportKind → String
  | .reExport => "re-export"
  | .default => "default"
  | .named => "named"

/-- The name of the form in data. -/
def key : ExportKind → String
  | .reExport => "reExport"
  | .default => "default"
  | .named => "named"

/-- The form with a given name in data. -/
def ofKey? : String → Option ExportKind
  | "reExport" => some .reExport
  | "default" => some .default
  | "named" => some .named
  | _ => none

theorem ofKey?_key (k : ExportKind) : ofKey? k.key = some k := by cases k <;> rfl

end ExportKind

/-- An export statement that has been understood. -/
structure ExportRecord where
  /-- The form. -/
  kind : ExportKind
  /-- The text of the token behind the keyword. -/
  declaration : String
  /-- The exported name, the first one of a list. -/
  exported : String
  /-- The offsets of the statement. -/
  range : Span
  /-- Where the statement starts. -/
  loc : Location
  /-- The text of the statement. -/
  code : String
  deriving DecidableEq, Repr, Inhabited

end ImportScan
