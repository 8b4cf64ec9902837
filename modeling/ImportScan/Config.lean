import ImportScan.Failure
import ImportScan.Pattern.Glob
import ImportScan.Pattern.Regex
import ImportScan.Worklist

/-!
# Configuration

## Main definitions

* `BalancePolicy` — what a bracket mismatch does to a run.
* `Config` — a configuration as it is written down, and the one in force when none is.
* `ConfigError` — a pattern in a configuration that is not one.
* `Settings`, `Config.settings` — the settings of a run.
-/

namespace ImportScan

/-- What a bracket mismatch does to a run. -/
inductive BalancePolicy where
  /-- The whole run stops. -/
  | abortRun
  /-- The file fails and the run goes on. -/
  | skipFile
  deriving DecidableEq, Repr, Inhabited

namespace BalancePolicy

/-- The name of a policy. -/
def name : BalancePolicy → String
  | .abortRun => "abortRun"
  | .skipFile => "skipFile"

/-- The policy with a given name. -/
def ofName? : String → Option BalancePolicy
  | "abortRun" => some .abortRun
  | "skipFile" => some .skipFile
  | _ => none

theorem ofName?_name (p : BalancePolicy) : ofName? p.name = some p := by cases p <;> rfl

end BalancePolicy

/-- A configuration. -/
structure Config where
  /-- The file to start from when none is given. -/
  entry : String
  /-- A regular expression for the specifiers to follow. -/
  extractable : String
  /-- Globs for the paths to leave out. -/
  ignores : List String
  /-- Whether imports are followed. -/
  followImports : Bool
  /-- What a bracket mismatch does. -/
  onBalanceMismatch : BalancePolicy
  /-- The language of all files, when it is not to be told from their names. -/
  language : Option Language
  deriving DecidableEq, Repr, Inhabited

/-- The name of the file that holds a configuration. -/
def configFileName : String := ".modsplitrc.json"

/-- The configuration in force when none is written down. -/
def Config.default : Config :=
  { entry := "lib/util.js"
    extractable := "(?i)\\.m?js$"
    ignores := []
    followImports := true
    onBalanceMismatch := .abortRun
    language := none }

/-- A pattern in a configuration that is not one. -/
inductive ConfigError where
  /-- What should be a regular expression is none. -/
  | extractable (text : String)
  /-- What should be a glob is none. -/
  | ignores (text : String) (e : GlobError)
  deriving DecidableEq, Repr, Inhabited

/-- The complaint, with the fault of a glob as its cause. -/
def ConfigError.failure : ConfigError → Failure
  | .extractable text => ⟨"Invalid regular expression in 'extractable': \"" ++ text ++ "\"", []⟩
  | .ignores text e => ⟨"Invalid glob pattern in 'ignores': \"" ++ text ++ "\"", [e.message]⟩

/-- The settings of a run. -/
structure Settings where
  /-- The language of all files, when it is not to be told from their names. -/
  language : Option Language
  /-- Which imports are followed. -/
  imports : ImportPolicy
  /-- What a bracket mismatch does. -/
  onMismatch : BalancePolicy

namespace Config

/-- The regular expression of the configuration. -/
def extractableRegex (c : Config) : Except ConfigError Regex :=
  match Regex.ofString? c.extractable with
  | some r => .ok r
  | none => .error (.extractable c.extractable)

/-- Read some globs. -/
def readGlobs : List String → Except ConfigError (List Glob)
  | [] => .ok []
  | text :: rest =>
    match Glob.ofString text with
    | .error e => .error (.ignores text e)
    | .ok g =>
      match readGlobs rest with
      | .ok gs => .ok (g :: gs)
      | .error e => .error e

/-- The globs of the configuration. -/
def ignoreGlobs (c : Config) : Except ConfigError (List Glob) := readGlobs c.ignores

/-- Whether some glob accepts a path.  None of them accepts a path that is no text. -/
def acceptsPath (globs : List Glob) (p : Path) : Bool :=
  p.isText && globs.any fun g => g.accepts p.toString

/-- The settings that the configuration asks for.  The regular expression is read first. -/
def settings (c : Config) : Except ConfigError Settings :=
  match c.extractableRegex with
  | .error e => .error e
  | .ok r =>
    match c.ignoreGlobs with
    | .error e => .error e
    | .ok globs =>
      .ok
        { language := c.language
          imports :=
            { extractable := r.isMatch, ignored := acceptsPath globs, follow := c.followImports }
          onMismatch := c.onBalanceMismatch }

end Config

end ImportScan
