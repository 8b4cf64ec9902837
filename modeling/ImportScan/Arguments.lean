import ImportScan.Language
import ImportScan.Report.Format

/-!
# Command line arguments

The arguments are read from left to right.  An option waits for its value, and the names of files are
collected; both are taken over when the next flag or option is met, or at the end.  The first mistake
that is met decides what is wrong.

## Main definitions

* `Arguments` — what the arguments ask for.
* `UsageFault` — why the arguments cannot be followed.
* `ArgumentReader` — the arguments read so far, with its steps.
* `Arguments.read` — the whole command line.
-/

namespace ImportScan

/-! ### What the arguments ask for -/

/-- What the arguments ask for. -/
structure Arguments where
  /-- The files to start from. -/
  files : List String
  /-- The language of all files. -/
  language : Option Language
  /-- The output format. -/
  format : Option OutputFormat
  /-- Whether every token is shown. -/
  trace : Bool
  /-- Whether details are shown. -/
  verbose : Bool
  /-- Whether a bracket mismatch only fails its file. -/
  keepGoing : Bool
  /-- Whether imports are not followed. -/
  noFollow : Bool
  /-- Whether to write a configuration and do nothing else. -/
  init : Bool
  deriving DecidableEq, Repr, Inhabited

/-- Nothing is asked for. -/
def Arguments.none : Arguments := ⟨[], .none, .none, false, false, false, false, false⟩

/-- Why the arguments cannot be followed; two of the reasons are requests. -/
inductive UsageFault where
  /-- There is no such argument. -/
  | unknownArgument
  /-- A value is missing, empty or none of those that are allowed. -/
  | invalidValue
  /-- A flag has a value. -/
  | tooManyValues
  /-- Arguments exclude each other. -/
  | argumentConflict
  /-- Help is asked for. -/
  | displayHelp
  /-- The version is asked for. -/
  | displayVersion
  deriving DecidableEq, Repr, Inhabited

namespace UsageFault

/-- The name of a reason. -/
def name : UsageFault → String
  | .unknownArgument => "UnknownArgument"
  | .invalidValue => "InvalidValue"
  | .tooManyValues => "TooManyValues"
  | .argumentConflict => "ArgumentConflict"
  | .displayHelp => "DisplayHelp"
  | .displayVersion => "DisplayVersion"

/-- Whether it is a request. -/
def isRequest : UsageFault → Bool
  | .displayHelp => true
  | .displayVersion => true
  | _ => false

end UsageFault

/-! ### Names -/

/-- The arguments with a value. -/
inductive ValueOption where
  /-- The language of all files. -/
  | language
  /-- The output format. -/
  | format
  deriving DecidableEq, Repr, Inhabited

/-- The arguments without a value. -/
inductive Flag where
  /-- Show every token. -/
  | trace
  /-- Show details. -/
  | verbose
  /-- Go on after a bracket mismatch. -/
  | keepGoing
  /-- Do not follow imports. -/
  | noFollow
  /-- Write a configuration. -/
  | init
  /-- Show help. -/
  | help
  /-- Show the version. -/
  | version
  deriving DecidableEq, Repr, Inhabited

/-- The arguments that start with a hyphen. -/
inductive Switch where
  /-- One with a value. -/
  | option (o : ValueOption)
  /-- One without a value. -/
  | flag (f : Flag)
  deriving DecidableEq, Repr, Inhabited

/-- The argument with a name of several letters. -/
def Switch.ofName? : String → Option Switch
  | "lang" => some (.option .language)
  | "format" => some (.option .format)
  | "trace" => some (.flag .trace)
  | "verbose" => some (.flag .verbose)
  | "keep-going" => some (.flag .keepGoing)
  | "no-follow" => some (.flag .noFollow)
  | "init" => some (.flag .init)
  | "help" => some (.flag .help)
  | "version" => some (.flag .version)
  | _ => none

/-- The argument with a name of one letter. -/
def Flag.ofLetter? : Char → Option Flag
  | 'x' => some .trace
  | 'v' => some .verbose
  | 'h' => some .help
  | 'V' => some .version
  | _ => none

/-! ### Reading -/

/-- What has been read but not taken over. -/
inductive Waiting where
  /-- An option, with its value when that has been read. -/
  | option (o : ValueOption) (value : Option String)
  /-- Names of files. -/
  | files (names : List String)
  deriving DecidableEq, Repr, Inhabited

/-- The arguments read so far. -/
structure ArgumentReader where
  /-- What they ask for. -/
  done : Arguments
  /-- What waits. -/
  waiting : Option Waiting
  deriving DecidableEq, Repr, Inhabited

namespace ArgumentReader

/-- Take over the value of an option, which must not have been given before. -/
def setOption (a : Arguments) (o : ValueOption) (value : String) : Except UsageFault Arguments :=
  match o with
  | .language =>
    if a.language.isSome then .error .argumentConflict
    else
      match Language.ofName? value with
      | some l => .ok { a with language := some l }
      | none => .error .invalidValue
  | .format =>
    if a.format.isSome then .error .argumentConflict
    else
      match OutputFormat.ofName? value with
      | some f => .ok { a with format := some f }
      | none => .error .invalidValue

/-- Take over a flag, which must not have been given before. -/
def setFlag (a : Arguments) (f : Flag) : Except UsageFault Arguments :=
  let once (given : Bool) (next : Arguments) : Except UsageFault Arguments :=
    if given then .error .argumentConflict else .ok next
  match f with
  | .trace => once a.trace { a with trace := true }
  | .verbose => once a.verbose { a with verbose := true }
  | .keepGoing => once a.keepGoing { a with keepGoing := true }
  | .noFollow => once a.noFollow { a with noFollow := true }
  | .init => once a.init { a with init := true }
  | .help => .error .displayHelp
  | .version => .error .displayVersion

/-- Take over what waits. -/
def settle (r : ArgumentReader) : Except UsageFault Arguments :=
  match r.waiting with
  | none => .ok r.done
  | some (.option _ none) => .error .invalidValue
  | some (.option o (some value)) => setOption r.done o value
  | some (.files names) =>
    if names.contains "" then .error .invalidValue
    else .ok { r.done with files := r.done.files ++ names }

/-- A flag. -/
def flag (r : ArgumentReader) (f : Flag) : Except UsageFault ArgumentReader :=
  match r.settle with
  | .error e => .error e
  | .ok a => (setFlag a f).map fun a => ⟨a, none⟩

/-- An option, with its value when both are one argument. -/
def option (r : ArgumentReader) (o : ValueOption) (value : Option String) :
    Except UsageFault ArgumentReader :=
  match r.settle with
  | .error e => .error e
  | .ok a =>
    match value with
    | some v => (setOption a o v).map fun a => ⟨a, none⟩
    | none => .ok ⟨a, some (.option o none)⟩

/-- The name of a file. -/
def file (r : ArgumentReader) (name : String) : Except UsageFault ArgumentReader :=
  match r.waiting with
  | some (.files names) => .ok { r with waiting := some (.files (names ++ [name])) }
  | _ => r.settle.map fun a => ⟨a, some (.files [name])⟩

/-- An argument behind two hyphens, with what follows its first equals sign. -/
def long (r : ArgumentReader) (name : String) (value : Option String) :
    Except UsageFault ArgumentReader :=
  match Switch.ofName? name, value with
  | some (.option o), value => r.option o value
  | some (.flag f), none => r.flag f
  | some (.flag _), some _ => .error .tooManyValues
  | none, _ => .error .unknownArgument

/-- The letters behind one hyphen. -/
def short (r : ArgumentReader) : List Char → Except UsageFault ArgumentReader
  | [] => .ok r
  | c :: cs =>
    match Flag.ofLetter? c with
    | some f =>
      match r.flag f with
      | .ok r => r.short cs
      | .error e => .error e
    | none => .error .unknownArgument

/-- The name of an argument, and its value when there is an equals sign. -/
def splitEquals (cs : List Char) : String × Option String :=
  let name := String.ofList (cs.takeWhile (· != '='))
  match cs.dropWhile (· != '=') with
  | [] => (name, none)
  | _ :: value => (name, some (String.ofList value))

/-- An argument that is no switch: the value of the option that waits for one, or the name of a file. -/
def word (r : ArgumentReader) (s : String) : Except UsageFault ArgumentReader :=
  match r.waiting with
  | some (.option o none) => .ok { r with waiting := some (.option o (some s)) }
  | _ => r.file s

/-- One argument before any that consists of two hyphens. -/
def argument (r : ArgumentReader) (s : String) : Except UsageFault ArgumentReader :=
  match s.toList with
  | '-' :: '-' :: cs =>
    let (name, value) := splitEquals cs
    r.long name value
  | '-' :: c :: cs => r.short (c :: cs)
  | _ => r.word s

/-- Names of files. -/
def allFiles (r : ArgumentReader) : List String → Except UsageFault ArgumentReader
  | [] => .ok r
  | s :: rest =>
    match r.file s with
    | .ok r => r.allFiles rest
    | .error e => .error e

/-- All arguments.  Behind one that consists of two hyphens there are only names of files. -/
def all (r : ArgumentReader) : List String → Except UsageFault ArgumentReader
  | [] => .ok r
  | s :: rest =>
    if s = "--" then r.allFiles rest
    else
      match r.argument s with
      | .ok r => r.all rest
      | .error e => .error e

end ArgumentReader

namespace Arguments

/-- Whether anything is asked for apart from writing a configuration. -/
def asksForMore (a : Arguments) : Bool := { a with init := false } != none

/-- Read a command line.  Writing a configuration excludes all other arguments. -/
def read (args : List String) : Except UsageFault Arguments :=
  match ArgumentReader.all ⟨none, .none⟩ args with
  | .error e => .error e
  | .ok r =>
    match r.settle with
    | .error e => .error e
    | .ok a => if a.init && a.asksForMore then .error .argumentConflict else .ok a

end Arguments

end ImportScan
