import ImportScan.Command
import ImportScan.Terminal

/-!
# The program

The outer layer: it reads the arguments, the surroundings and the files, and writes the output.  What it
does with them is told by the modules it uses.
-/

namespace ImportScan

namespace Program

/-! ### Texts -/

/-- How the program is called. -/
def usageText : String :=
  "Usage: importscan [--lang ecma|c] [--format text|json|es6|cjs] [-x] [-v] [--keep-going]\n" ++
    "                  [--no-follow] [--init] [FILES]...\n"

/-- The version. -/
def versionText : String := "importscan 0.1.0\n"

/-- What is wrong with the arguments, as it is shown. -/
def usageMessage (f : UsageFault) : String :=
  match f with
  | .displayHelp => usageText
  | .displayVersion => versionText
  | .unknownArgument => "error: unexpected argument\n\n" ++ usageText
  | .invalidValue => "error: a value is missing or not allowed\n\n" ++ usageText
  | .tooManyValues => "error: a flag takes no value\n\n" ++ usageText
  | .argumentConflict => "error: arguments cannot be used together\n\n" ++ usageText

/-! ### Files -/

/-- The reason told by an error of the system. -/
def readFault (isFolder : Bool) (e : IO.Error) : ReadFault :=
  match e with
  | .noFileOrDirectory .. => .notFound
  | .inappropriateType .. => if isFolder then .isFolder else .notFolder
  | e => .other (toString e)

/-- Read the file with a name. -/
def readText (name : String) : IO (Except ReadFault String) := do
  if name.toList.contains '\x00' then return .error .nulCharacter
  try
    let bytes ← IO.FS.readBinFile name
    match String.fromUTF8? bytes with
    | some text => return .ok text
    | none => return .error .notText
  catch e =>
    let folder ← IO.currentDir
    return .error (readFault (← (folder / name).isDir) e)

/-- Whether there is a file with a name. -/
def isFile (folder name : String) : IO Bool := do
  if name.toList.contains '\x00' then return false
  let start ← IO.currentDir
  let path := start / folder / name
  return (← path.pathExists) && !(← path.isDir)

/-- Whether there is a file or a folder with a name. -/
def isThere (folder name : String) : IO Bool := do
  let start ← IO.currentDir
  (start / folder / name).pathExists

/-! ### The configuration -/

/-- What a folder means for the search of a configuration. -/
def search (folder : String) : IO Search :=
  return .ofNames (← isThere folder configFileName) (← isThere folder repositoryName)

/-- The nearest file with a configuration.  The folder is given by its names, the last one first. -/
def findConfig : List String → IO (Option String)
  | [] => do
    match ← search (placeText []) with
    | .found => return some (placeText [configFileName])
    | _ => return none
  | name :: above => do
    let names := (name :: above).reverse
    match ← search (placeText names) with
    | .found => return some (placeText (names ++ [configFileName]))
    | .ended => return none
    | .goesOn => findConfig above

/-- The configuration in force. -/
def loadConfig : IO (Except Failure Config) := do
  let folder ← IO.currentDir
  let names := (Path.ofString folder.toString).parts.map PathPart.text
  match ← findConfig names.reverse with
  | none => return .ok Config.default
  | some name => return Config.ofFile name (← readText name)

/-! ### Runs -/

/-- Write pieces of output to a stream. -/
def write (stream : IO.FS.Stream) (colours : Bool) (pieces : Pieces) : IO Unit := do
  stream.putStr (render colours pieces)
  stream.flush

/-- One step of a run, and the time it took. -/
def step (r : Run) (p : Path) : IO (Run.Step × Nat) := do
  let began ← IO.monoNanosNow
  let text ← readText p.toString
  let candidates := match text with
    | .ok text => r.candidates p text
    | .error _ => []
  let existing ← candidates.filterM fun q => isFile "." q.toString
  let loaded := text.mapError fun cause => LoadFault.unreadable p cause
  let step := r.process p loaded existing.contains
  return (step, (← IO.monoNanosNow) - began)

/-- Take paths from the worklist until none waits or something stops the run; also the time spent on
each of them. -/
partial def drain (trace : Run.Step → Path → IO Unit) (r : Run) :
    IO (Run.Result × List (Path × Nat)) := do
  match r.worklist.next with
  | none => return (⟨r, [], none⟩, [])
  | some (p, w) =>
    let (step, time) ← step { r with worklist := w } p
    trace step p
    match step.fault with
    | some fault => return (⟨step.run, [], some ⟨p, fault⟩⟩, [(p, time)])
    | none =>
      let (result, times) ← drain trace step.run
      return (result, (p, time) :: times)

/-! ### The command -/

/-- The surroundings. -/
def environment : IO Environment :=
  return {
    clicolor := ← IO.getEnv "CLICOLOR"
    clicolorForce := ← IO.getEnv "CLICOLOR_FORCE"
    noColor := ← IO.getEnv "NO_COLOR"
    timingHidden := ← IO.getEnv timingVariable
    isTerminal := ← (← IO.getStdout).isTty }

/-- Write a configuration to the working folder. -/
def initialise : IO Output := do
  if ← isThere "." configFileName then return Command.failed Command.alreadyThere
  try
    IO.FS.writeFile configFileName Command.freshConfig
    return Command.initialised
  catch e => return Command.failed ⟨"Failed to write " ++ configFileName, [toString e]⟩

/-- Scan files. -/
def scan (a : Arguments) (e : Environment) : IO Output := do
  match (← loadConfig).bind (Command.start a) with
  | .error f => return Command.failed f
  | .ok r =>
    let began ← IO.monoNanosNow
    let stderr ← IO.getStderr
    let (result, times) ← drain (fun step p =>
      if a.trace then write stderr e.colours (traceFile p.toString step.seen) else pure ()) r
    let times : RunTimes :=
      { file := fun p => (times.lookup p).getD 0
        total := (← IO.monoNanosNow) - began }
    return Command.told a e.timing [] ((result.report times.total).timed times)

/-- The program. -/
def run (args : List String) : IO ExitStatus := do
  match Arguments.read args with
  | .error f =>
    let stream ← if f.isRequest then IO.getStdout else IO.getStderr
    stream.putStr (usageMessage f)
    return if f.isRequest then .success else .usage
  | .ok a =>
    let e ← environment
    let output ← if a.init then initialise else scan a e
    write (← IO.getStdout) e.colours output.stdout
    write (← IO.getStderr) e.colours output.stderr
    return output.status

end Program

end ImportScan

/-- Run the program. -/
def main (args : List String) : IO UInt32 := do
  let status ← ImportScan.Program.run args
  return UInt32.ofNat status.code
