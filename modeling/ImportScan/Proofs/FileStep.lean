import ImportScan.Proofs.RunInvariant
import ImportScan.Proofs.Scheduling

/-!
# The step for one file

What the step for a file does to a run depends on the outcome of the pass over its text, and on the
worklist only through the paths that are scheduled already.  Each part of the run that the step
changes is told here by a function of the outcome.

## Main definitions

* `FileModule.settled` — the module of a file that has been scanned.
* `ImportPolicy.led`, `fileIssues`, `fileFault` — the paths that it schedules, its issues, and what
  stops the run.

## Main results

* `Run.scan_eq` — **all that the step for a loaded file does**.
* `Run.process_issues` — the issues that it adds.
-/

namespace ImportScan

/-- What the pass over a text ends with. -/
abbrev Outcome := Except ExtractionFault Extraction

/-- What the pass over the text of a file ends with. -/
def Settings.outcome (settings : Settings) (p : Path) (text : String) : Outcome :=
  (extract (settings.language.getD p.language) text.toList).outcome

/-- The module of a file that has been scanned. -/
def FileModule.settled (m : FileModule) (text : String) : Outcome → FileModule
  | .ok x => m.completed text x
  | .error _ => m.abandoned text

@[simp] theorem FileModule.settled_path (m : FileModule) (text : String) (outcome : Outcome) :
    (m.settled text outcome).path = m.path := by
  cases outcome <;> rfl

theorem FileModule.settled_opened (m : FileModule) (text : String) (outcome : Outcome) :
    m.opened.settled text outcome = m.settled text outcome := by
  cases outcome <;> rfl

/-- The paths that a file schedules. -/
def ImportPolicy.led (policy : ImportPolicy) (doesExist : Path → Bool) (w : Worklist) (p : Path) :
    Outcome → List Path
  | .ok x => (w.resolve policy doesExist p (Run.specifiers x)).2.enqueued
  | .error _ => []

/-- The issues of a file. -/
def fileIssues (policy : ImportPolicy) (doesExist : Path → Bool) (w : Worklist) (p : Path)
    (text : String) : Outcome → List Issue
  | .ok x => x.malformed.map (Run.malformedIssue p text) ++
      ((Run.specifiers x).filterMap (w.unresolved? policy doesExist p)).map
        (Run.unresolvedIssue p text)
  | .error (.lex e) => [Run.lexIssue p text e]
  | .error (.balance m) => [Run.balanceIssue p text m]

/-- What stops a run at a file that has been scanned. -/
def fileFault (policy : BalancePolicy) : Outcome → Option RunFault
  | .error (.balance m) =>
    match policy with
    | .abortRun => some (.balance m)
    | .skipFile => none
  | _ => none

namespace Run

variable (r : Run) (p : Path) (text : String) (doesExist : Path → Bool)

/-- Change the module of one file. -/
def updated (p : Path) (change : FileModule → FileModule) (m : FileModule) : FileModule :=
  if m.path = p then change m else m

/-- The run behind a file that has been scanned. -/
def settle (outcome : Outcome) : Run where
  settings := r.settings
  worklist := r.worklist.enqueueAll (r.settings.imports.led doesExist r.worklist p outcome)
  modules :=
    (r.modules ++ (r.settings.imports.led doesExist r.worklist p outcome).map fun q =>
      ({ path := q } : FileModule)).map (updated p fun m => m.settled text outcome)
  issues := r.issues ++ fileIssues r.settings.imports doesExist r.worklist p text outcome

/-- Beginning with a file makes no difference to the module that is settled in the end. -/
theorem map_updated_opened (modules added : List FileModule) (outcome : Outcome) :
    (modules.map (updated p FileModule.opened) ++ added).map
        (updated p fun m => m.settled text outcome)
      = (modules ++ added).map (updated p fun m => m.settled text outcome) := by
  rw [List.map_append, List.map_append, List.map_map]
  congr 1
  refine List.map_congr_left fun m _ => ?_
  show updated p _ (updated p _ m) = updated p _ m
  unfold updated
  by_cases hm : m.path = p
  · have hopened : m.opened.path = p := hm
    rw [if_pos hm, if_pos hm, if_pos hopened]
    exact m.settled_opened text outcome
  · rw [if_neg hm, if_neg hm]

theorem complete_eq (x : Extraction) :
    (r.update p FileModule.opened).complete p text doesExist x
      = r.settle p text doesExist (.ok x) := by
  have hresolved := Worklist.resolved_resolve r.settings.imports doesExist p (specifiers x) r.worklist
  have hmodules := map_updated_opened p text r.modules
    ((r.worklist.resolve r.settings.imports doesExist p (specifiers x)).2.enqueued.map fun q =>
      ({ path := q } : FileModule)) (.ok x)
  unfold settle fileIssues ImportPolicy.led
  dsimp only
  rw [← hmodules, ← hresolved.worklist, ← hresolved.unresolved, ← List.append_assoc]
  rfl

theorem fail_eq (fault : ExtractionFault) (issue : Issue)
    (hissue : fileIssues r.settings.imports doesExist r.worklist p text (.error fault) = [issue]) :
    (r.update p FileModule.opened).fail p text issue
      = r.settle p text doesExist (.error fault) := by
  have hmodules := map_updated_opened p text r.modules [] (.error fault)
  unfold settle
  rw [hissue]
  unfold ImportPolicy.led
  dsimp only
  rw [List.map_nil, ← hmodules, List.append_nil, Worklist.enqueueAll_nil]
  rfl

/-- **All that the step for a loaded file does.** -/
theorem scan_eq :
    r.scan p text doesExist =
      ⟨r.settle p text doesExist (r.settings.outcome p text),
        (extract (r.languageOf p) text.toList).seen,
        fileFault r.settings.onMismatch (r.settings.outcome p text)⟩ := by
  have hlanguage : (r.update p fun m => { m with status := .inProgress }).languageOf p
      = r.languageOf p := rfl
  have houtcome : r.settings.outcome p text = (extract (r.languageOf p) text.toList).outcome := rfl
  unfold scan
  dsimp only
  rw [hlanguage, houtcome]
  cases (extract (r.languageOf p) text.toList).outcome with
  | ok x =>
    rw [← complete_eq]
    rfl
  | error fault =>
    cases fault with
    | lex e =>
      rw [← fail_eq r p text doesExist (.lex e) (lexIssue p text e) rfl]
      rfl
    | balance m =>
      rw [← fail_eq r p text doesExist (.balance m) (balanceIssue p text m) rfl]
      rfl

variable {r p}

/-- The step for a file adds the issues of this file and no others, and keeps the settings. -/
theorem process_issues (loaded : Except LoadFault String) :
    (r.process p loaded doesExist).run.settings = r.settings ∧
      ∀ i ∈ (r.process p loaded doesExist).run.issues, i ∈ r.issues ∨
        ∃ text, loaded = .ok text ∧
          i ∈ fileIssues r.settings.imports doesExist r.worklist p text (r.settings.outcome p text) := by
  unfold process
  split
  · exact ⟨rfl, fun i hi => .inl hi⟩
  · cases loaded with
    | error fault => exact ⟨rfl, fun i hi => .inl hi⟩
    | ok text =>
      show (r.scan p text doesExist).run.settings = _ ∧ ∀ i ∈ (r.scan p text doesExist).run.issues, _
      rw [scan_eq]
      refine ⟨rfl, fun i hi => ?_⟩
      rcases List.mem_append.1 hi with hi | hi
      · exact .inl hi
      · exact .inr ⟨text, rfl, hi⟩

end Run

end ImportScan
