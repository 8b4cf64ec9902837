/-!
# Output formats

## Main definitions

* `OutputFormat` — the ways to show what a run has found.
-/

namespace ImportScan

/-- The ways to show what a run has found. -/
inductive OutputFormat where
  /-- A line for every file, the issues and a summary. -/
  | text
  /-- All data as JSON. -/
  | json
  /-- The imports as import statements. -/
  | es6
  /-- The imports as calls of `require`. -/
  | cjs
  deriving DecidableEq, Repr, Inhabited

namespace OutputFormat

/-- The format with a given name. -/
def ofName? : String → Option OutputFormat
  | "text" => some .text
  | "json" => some .json
  | "es6" => some .es6
  | "cjs" => some .cjs
  | _ => none

end OutputFormat

end ImportScan
