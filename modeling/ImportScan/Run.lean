import ImportScan.Config
import ImportScan.Extraction
import ImportScan.Failure
import ImportScan.Issue
import ImportScan.Module
import ImportScan.Source
import ImportScan.Text.Lines

/-!
# Runs

A run takes the paths from its worklist one by one.  Each file is loaded, scanned and cut at its
imports; then its imports are scheduled.  Problems are collected as issues.  The run stops at a file
that cannot be loaded and, if the settings say so, at brackets that do not nest.

## Main definitions

* `RunFault`, `RunError` — what stops a run, and at which file.
* `Run`, `Run.start`, `Run.addEntry` — the state of a run.
* `Run.process` — the step for one file.
* `Run.drain` — the whole run, given a source.

## Main results

* `Run.workLeft_process` — a step adds no work: what it schedules, no later step can schedule.
-/

namespace ImportScan

/-! ### Faults -/

/-- What stops a run. -/
inductive RunFault where
  /-- A file cannot be loaded. -/
  | load (fault : LoadFault)
  /-- Brackets do not nest. -/
  | balance (m : BalanceMismatch)
  /-- A path was taken from the worklist that is no module of the run. -/
  | unregistered (p : Path)
  deriving DecidableEq, Repr, Inhabited

/-- The complaint and its causes, as they are shown. -/
def RunFault.chain : RunFault → List String
  | .load fault => fault.chain
  | .balance m => [m.message]
  | .unregistered p => [p.toString ++ " was scheduled but never registered"]

/-- What stopped a run, and the file at which it did. -/
structure RunError where
  /-- The file. -/
  path : Path
  /-- What happened. -/
  fault : RunFault
  deriving DecidableEq, Repr, Inhabited

/-- The complaint and its causes, as they are shown. -/
def RunError.failure (e : RunError) : Failure :=
  ⟨"Failed to process " ++ e.path.toString, e.fault.chain⟩

/-! ### State -/

/-- The state of a run. -/
structure Run where
  /-- The settings. -/
  settings : Settings
  /-- The paths scheduled and waiting. -/
  worklist : Worklist
  /-- The modules, in the order in which they were scheduled. -/
  modules : List FileModule
  /-- The issues, in the order in which they were found. -/
  issues : List Issue

namespace Run

/-- A run with nothing to do. -/
def start (settings : Settings) : Run := ⟨settings, .empty, [], []⟩

/-- Make modules of some paths. -/
def register (r : Run) (paths : List Path) : Run :=
  { r with modules := r.modules ++ paths.map fun p => ({ path := p } : FileModule) }

/-- Schedule a file to start from; whether it was not scheduled before. -/
def addEntry (r : Run) (p : Path) : Run × Bool :=
  match r.worklist.schedule p with
  | (w, some path) => ({ r with worklist := w }.register [path], true)
  | (_, none) => (r, false)

/-- Schedule some files to start from. -/
def addEntries (r : Run) (paths : List Path) : Run := paths.foldl (fun r p => (r.addEntry p).1) r

/-- The module with a path. -/
def module? (r : Run) (p : Path) : Option FileModule := r.modules.find? fun m => m.path == p

/-- Change the module with a path. -/
def update (r : Run) (p : Path) (change : FileModule → FileModule) : Run :=
  { r with modules := r.modules.map fun m => if m.path = p then change m else m }

/-- Add issues. -/
def addIssues (r : Run) (issues : List Issue) : Run := { r with issues := r.issues ++ issues }

/-- The language of a file. -/
def languageOf (r : Run) (p : Path) : Language := r.settings.language.getD p.language

/-! ### Issues of a file -/

/-- A place in a text, ready to be shown. -/
def contextAt (p : Path) (text : String) (loc : Location) : SourceContext :=
  ⟨p.toString, loc.line, loc.column, String.ofList (ImportScan.sourceLine text.toList loc.line)⟩

/-- The issue of a token that cannot be read. -/
def lexIssue (p : Path) (text : String) (e : LexError) : Issue :=
  ⟨contextAt p text e.loc, .lex e.fault.message⟩

/-- The issue of brackets that do not nest. -/
def balanceIssue (p : Path) (text : String) (m : BalanceMismatch) : Issue :=
  ⟨contextAt p text m.loc, .balance m⟩

/-- The issue of a statement that cannot be understood. -/
def malformedIssue (p : Path) (text : String) (m : Malformed) : Issue :=
  ⟨contextAt p text m.loc, .malformed m.kind m.fault.message⟩

/-- The issue of an import that names no file. -/
def unresolvedIssue (p : Path) (text : String) (u : UnresolvedSpecifier) : Issue :=
  ⟨contextAt p text u.loc, .unresolved u.specifier u.resolved.toString⟩

/-! ### One file -/

/-- What the step for one file gives. -/
structure Step where
  /-- The run behind it. -/
  run : Run
  /-- The tokens seen, when the file could be loaded. -/
  seen : List SeenToken
  /-- What stops the run, if anything. -/
  fault : Option RunFault

/-- The imports of a file, with their places. -/
def specifiers (x : Extraction) : List PlacedSpecifier := x.imports.map fun r => (r.specifier, r.loc)

/-- The paths that the imports of a text could schedule. -/
def candidates (r : Run) (p : Path) (text : String) : List Path :=
  match (extract (r.languageOf p) text.toList).outcome with
  | .ok x => (specifiers x).map fun s => p.resolve s.1
  | .error _ => []

/-- The end of the step for a file whose records have been extracted. -/
def complete (r : Run) (p : Path) (text : String) (doesExist : Path → Bool) (x : Extraction) : Run :=
  let segments := (partition? text.toList (x.imports.map ImportRecord.range)).getD []
  let (w, resolution) := r.worklist.resolve r.settings.imports doesExist p (specifiers x)
  let r := r.addIssues (x.malformed.map (malformedIssue p text))
  let r := r.addIssues (resolution.unresolved.map (unresolvedIssue p text))
  let r := { r with worklist := w }.register resolution.enqueued
  r.update p fun m =>
    { m with status := .done, buffer := text, imports := x.imports, exports := x.exports, segments }

/-- The end of the step for a file that could not be processed. -/
def fail (r : Run) (p : Path) (text : String) (issue : Issue) : Run :=
  (r.addIssues [issue]).update p fun m => { m with status := .failed, buffer := text }

/-- The step for a file that has been loaded. -/
def scan (r : Run) (p : Path) (text : String) (doesExist : Path → Bool) : Step :=
  let r := r.update p fun m => { m with status := .inProgress }
  let result := extract (r.languageOf p) text.toList
  match result.outcome with
  | .ok x => ⟨r.complete p text doesExist x, result.seen, none⟩
  | .error (.lex e) => ⟨r.fail p text (lexIssue p text e), result.seen, none⟩
  | .error (.balance m) =>
    let fault := match r.settings.onMismatch with
      | .abortRun => some (RunFault.balance m)
      | .skipFile => none
    ⟨r.fail p text (balanceIssue p text m), result.seen, fault⟩

/-- The step for a path, given its text or the reason why there is none. -/
def process (r : Run) (p : Path) (loaded : Except LoadFault String) (doesExist : Path → Bool) : Step :=
  if (r.module? p).isNone then ⟨r, [], some (.unregistered p)⟩
  else
    match loaded with
    | .error fault => ⟨r, [], some (.load fault)⟩
    | .ok text => r.scan p text doesExist

/-! ### All files -/

/-- The number of paths that are waiting or, among `files`, can still be scheduled. -/
def workLeft (files : List Path) (w : Worklist) : Nat :=
  w.queue.length + (files.filter fun p => !w.isScheduled p).length

/-- What a run ends with. -/
structure Result where
  /-- The run at its end. -/
  run : Run
  /-- The tokens seen in each file that was loaded, in the order of the files. -/
  traces : List (Path × List SeenToken)
  /-- What stopped the run, if anything. -/
  error : Option RunError

@[simp] theorem addIssues_worklist (r : Run) (issues : List Issue) :
    (r.addIssues issues).worklist = r.worklist := rfl

@[simp] theorem update_worklist (r : Run) (p : Path) (change : FileModule → FileModule) :
    (r.update p change).worklist = r.worklist := rfl

@[simp] theorem register_worklist (r : Run) (paths : List Path) :
    (r.register paths).worklist = r.worklist := rfl

@[simp] theorem fail_worklist (r : Run) (p : Path) (text : String) (issue : Issue) :
    (r.fail p text issue).worklist = r.worklist := rfl

/-- Scheduling a file that was not scheduled before adds no work. -/
theorem workLeft_enqueue {files : List Path} {w : Worklist} {p : Path} (hp : p ∈ files)
    (hnew : w.isScheduled p = false) : workLeft files (w.enqueue p) ≤ workLeft files w := by
  have hlt : (files.filter fun q => !(w.enqueue p).isScheduled q).length + 1
      ≤ (files.filter fun q => !w.isScheduled q).length := by
    induction files with
    | nil => simp at hp
    | cons q files ih =>
      -- scheduling never adds to what is left
      have hmono : ∀ l : List Path, (l.filter fun q => !(w.enqueue p).isScheduled q).length
          ≤ (l.filter fun q => !w.isScheduled q).length := by
        intro l
        refine List.Sublist.length_le ?_
        rw [show (l.filter fun q => !(w.enqueue p).isScheduled q)
            = (l.filter fun q => !w.isScheduled q).filter fun q => !(w.enqueue p).isScheduled q by
          rw [List.filter_filter]
          refine List.filter_congr fun q _ => ?_
          simp only [Worklist.isScheduled, Worklist.enqueue, List.contains_eq_mem, List.mem_append,
            List.mem_singleton]
          by_cases h : q ∈ w.scheduled <;> simp [h]]
        exact List.filter_sublist
      by_cases hqp : q = p
      · -- the path itself is no longer left
        subst hqp
        have hin : (w.enqueue q).isScheduled q = true := by
          simp [Worklist.isScheduled, Worklist.enqueue]
        simp only [List.filter_cons, hin, hnew, Bool.not_true, Bool.not_false, if_true,
          List.length_cons]
        exact Nat.succ_le_succ (hmono files)
      · have hmem : p ∈ files := by
          rcases List.mem_cons.1 hp with h | h
          · exact absurd h.symm hqp
          · exact h
        have hsame : (w.enqueue p).isScheduled q = w.isScheduled q := by
          simp [Worklist.isScheduled, Worklist.enqueue, hqp]
        simp only [List.filter_cons, hsame]
        split
        · simpa using ih hmem
        · exact ih hmem
  simp only [workLeft, Worklist.enqueue, List.length_append, List.length_singleton] at hlt ⊢
  omega

/-- Resolving the imports of a file adds no work. -/
theorem workLeft_resolve {files : List Path} {doesExist : Path → Bool}
    (h : ∀ p, doesExist p = true → p ∈ files) (policy : ImportPolicy) (p : Path)
    (xs : List PlacedSpecifier) (w : Worklist) :
    workLeft files (w.resolve policy doesExist p xs).1 ≤ workLeft files w := by
  have hfold : ∀ (xs : List PlacedSpecifier) (s : Worklist × Resolution),
      workLeft files (xs.foldl (Worklist.resolveOne policy doesExist p) s).1
        ≤ workLeft files s.1 := by
    intro xs
    induction xs with
    | nil => intro s; exact Nat.le_refl _
    | cons x xs ih =>
      intro s
      refine Nat.le_trans (ih _) ?_
      unfold Worklist.resolveOne
      dsimp only
      -- an import is passed over, unresolved or scheduled
      split
      · exact Nat.le_refl _
      · split
        · exact Nat.le_refl _
        · rename_i hskip
          split
          · exact Nat.le_refl _
          · rename_i hmissing
            simp only [Bool.or_eq_true, not_or, Bool.not_eq_true] at hskip
            exact workLeft_enqueue (h _ (by simpa using hmissing)) hskip.2
  unfold Worklist.resolve
  split
  · exact hfold xs _
  · exact Nat.le_refl _

/-- The step for a file adds no work. -/
theorem workLeft_process {files : List Path} {doesExist : Path → Bool}
    (h : ∀ p, doesExist p = true → p ∈ files) (r : Run) (p : Path)
    (loaded : Except LoadFault String) :
    workLeft files (r.process p loaded doesExist).run.worklist ≤ workLeft files r.worklist := by
  unfold process
  split
  · exact Nat.le_refl _
  · split
    · exact Nat.le_refl _
    · unfold scan
      dsimp only
      split
      · simp only [complete, update_worklist, register_worklist]
        exact workLeft_resolve h ..
      · simp
      · simp

/-- Take paths from the worklist until none waits or something stops the run.  `traces` holds the
tokens seen so far, the latest file first. -/
def drainFrom (source : Source) (traces : List (Path × List SeenToken)) (r : Run) : Result :=
  match hnext : r.worklist.next with
  | none => ⟨r, traces.reverse, none⟩
  | some (p, w) =>
    let loaded := source.load p
    let step : Step := process { r with worklist := w } p loaded source.doesExist
    have : workLeft source.finite.choose step.run.worklist
        < workLeft source.finite.choose r.worklist := by
      refine Nat.lt_of_le_of_lt (workLeft_process source.finite.choose_spec ..) ?_
      unfold Worklist.next at hnext
      split at hnext
      · cases hnext
      · rename_i hqueue
        cases hnext
        simp [workLeft, hqueue, Worklist.isScheduled]
    let traces := if loaded.isOk then (p, step.seen) :: traces else traces
    match step.fault with
    | some fault => ⟨step.run, traces.reverse, some ⟨p, fault⟩⟩
    | none => drainFrom source traces step.run
termination_by workLeft source.finite.choose r.worklist

/-- Process all files. -/
def drain (source : Source) (r : Run) : Result := r.drainFrom source []

end Run

end ImportScan
