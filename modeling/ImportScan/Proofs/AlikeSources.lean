import ImportScan.Proofs.FileStep
import ImportScan.Proofs.RunStages

/-!
# Runs from sources that agree on what a run asks

A run asks its source for the texts of the paths it has scheduled, and whether there are files where
its imports lead.  Two sources that agree on these questions give the same run: the same modules and
issues, the same tokens, and the same end.

## Main definitions

* `Source.Alike` — two sources agree on what a run can ask that only schedules good paths.

## Main results

* `Worklist.resolve_congr`, `Run.process_congr` — one file, as long as the answers for its imports
  are the same.
* `Run.drain_alike` — **the whole run is the same**.
-/

namespace ImportScan

/-! ### One file -/

theorem Worklist.resolve_congr {policy : ImportPolicy} {doesExist doesExist' : Path → Bool}
    {importer : Path} {xs : List PlacedSpecifier} (w : Worklist)
    (h : ∀ s ∈ xs, policy.extractable s.1 = true →
      doesExist' (importer.resolve s.1) = doesExist (importer.resolve s.1)) :
    w.resolve policy doesExist' importer xs = w.resolve policy doesExist importer xs := by
  have hone : ∀ s ∈ xs, ∀ state, resolveOne policy doesExist' importer state s
      = resolveOne policy doesExist importer state s := by
    intro s hs state
    unfold resolveOne
    dsimp only
    cases hextractable : policy.extractable s.1 with
    | false => rfl
    | true => rw [h s hs hextractable]
  unfold resolve
  split
  · exact List.foldl_ext _ _ _ fun state s hs => hone s hs state
  · rfl

namespace Run

/-- The step for a file is the same when the answers for its imports are. -/
theorem process_congr {r : Run} {p : Path} {doesExist doesExist' : Path → Bool}
    (h : ∀ specifier, r.settings.imports.extractable specifier = true →
      doesExist' (p.resolve specifier) = doesExist (p.resolve specifier))
    (loaded : Except LoadFault String) :
    r.process p loaded doesExist' = r.process p loaded doesExist := by
  -- a run asks for existence only where an import is followed
  have hcomplete (r' : Run) (hr' : r'.settings = r.settings) (text : String) (x : Extraction) :
      r'.complete p text doesExist' x = r'.complete p text doesExist x := by
    have hresolve : r'.worklist.resolve r'.settings.imports doesExist' p (specifiers x)
        = r'.worklist.resolve r'.settings.imports doesExist p (specifiers x) :=
      Worklist.resolve_congr _ fun s _ => hr' ▸ h s.1
    unfold complete
    rw [hresolve]
  unfold process scan
  split
  · rfl
  · cases loaded with
    | error fault => rfl
    | ok text =>
      dsimp only
      split
      · rw [hcomplete (r.update p _) rfl]
      · rfl
      · rfl

/-- What waits behind the step for a file has waited before, or an import of the file leads to
it. -/
theorem mem_queue_process {r : Run} {p q : Path} {loaded : Except LoadFault String}
    {doesExist : Path → Bool} (h : q ∈ (r.process p loaded doesExist).run.worklist.queue) :
    q ∈ r.worklist.queue ∨ ∃ specifier, r.settings.imports.Leads doesExist p specifier q := by
  unfold process at h
  split at h
  · exact .inl h
  · cases loaded with
    | error fault => exact .inl h
    | ok text =>
      dsimp only at h
      rw [scan_eq] at h
      -- what waits has waited before, or the file leads to it
      rcases List.mem_append.1 h with h | h
      · exact .inl h
      · have hled : (FileModule.settled { path := p } text _).LeadsTo _ _ q :=
          (ImportPolicy.mem_led_iff.1 h).2
        obtain ⟨-, i, -, hleads⟩ := hled
        rw [FileModule.settled_path] at hleads
        exact .inr ⟨i.specifier, hleads⟩

end Run

/-! ### Whole runs -/

/-- The second source answers like the first one what a run can ask that only schedules good
paths. -/
structure Source.Alike (policy : ImportPolicy) (good : Path → Prop) (source source' : Source) :
    Prop where
  /-- Good paths have the same texts. -/
  load : ∀ p, good p → source'.load p = source.load p
  /-- The imports lead to the same files. -/
  doesExist : ∀ (importer : Path) specifier, policy.extractable specifier = true →
    source'.doesExist (importer.resolve specifier) = source.doesExist (importer.resolve specifier)
  /-- The files that imports lead to have good paths. -/
  good : ∀ (importer : Path) specifier, policy.extractable specifier = true →
    source.doesExist (importer.resolve specifier) = true → good (importer.resolve specifier)

namespace Run

variable {source source' : Source} {good : Path → Prop}

/-- The computed run, one file further. -/
theorem drainFrom_of_next {r : Run} {p : Path} {w : Worklist} {step : Step}
    (hnext : r.worklist.next = some (p, w))
    (hstep : process { r with worklist := w } p (source.load p) source.doesExist = step)
    (traces : List (Path × List SeenToken)) :
    r.drainFrom source traces =
      let traces := if (source.load p).isOk then (p, step.seen) :: traces else traces
      match step.fault with
      | some fault => ⟨step.run, traces.reverse, some ⟨p, fault⟩⟩
      | none => step.run.drainFrom source traces := by
  subst hstep
  rw [drainFrom]
  split
  · next hnone => cases hnext.symm.trans hnone
  · next hsome =>
    cases hnext.symm.trans hsome
    exact rfl

theorem drainFrom_alike {r : Run} (h : source.Alike r.settings.imports good source')
    (hqueue : ∀ p ∈ r.worklist.queue, good p) (traces : List (Path × List SeenToken)) :
    r.drainFrom source' traces = r.drainFrom source traces := by
  -- a path that waits is a good one, and the step for it is the same with both sources
  have hask {r : Run} {p : Path} {w : Worklist} (h : source.Alike r.settings.imports good source')
      (hqueue : ∀ p ∈ r.worklist.queue, good p) (hnext : r.worklist.next = some (p, w)) :
      source'.load p = source.load p ∧
        process { r with worklist := w } p (source.load p) source'.doesExist
          = process { r with worklist := w } p (source.load p) source.doesExist := by
    obtain ⟨rest, hrest, -⟩ := next_eq_some_iff.1 hnext
    refine ⟨h.load p (hqueue p (hrest ▸ List.mem_cons_self)), ?_⟩
    exact process_congr (r := { r with worklist := w }) (h.doesExist p) _
  fun_induction drainFrom source traces r with
  | case1 traces r hnext =>
    rw [drainFrom]
    split
    · rfl
    · next hsome => cases hnext.symm.trans hsome
  | case2 traces r p w hnext loaded step _ _ fault hfault =>
    obtain ⟨hload, hprocess⟩ := hask h hqueue hnext
    have hstep : process { r with worklist := w } p (source'.load p) source'.doesExist = step := by
      rw [hload, hprocess]
    rw [drainFrom_of_next hnext hstep]
    dsimp only
    rw [hfault, hload]
    rfl
  | case3 traces r p w hnext loaded step _ _ hfault ih =>
    obtain ⟨hload, hprocess⟩ := hask h hqueue hnext
    have hstep : process { r with worklist := w } p (source'.load p) source'.doesExist = step := by
      rw [hload, hprocess]
    rw [drainFrom_of_next hnext hstep]
    dsimp only
    rw [hfault, hload]
    have hsettings : step.run.settings = r.settings := (process_issues _ _).1
    -- what a step schedules is good again
    refine ih (hsettings.symm ▸ h) fun q hq => ?_
    obtain ⟨rest, hrest, rfl⟩ := next_eq_some_iff.1 hnext
    rcases mem_queue_process hq with hq | ⟨specifier, hleads⟩
    · exact hqueue q (hrest ▸ List.mem_cons_of_mem p hq)
    · rw [← hleads.resolve]
      exact h.good p specifier hleads.extractable (hleads.resolve.symm ▸ hleads.doesExist)

/-- **Two sources that agree on what a run asks give the same run.** -/
theorem drain_alike {r : Run} (h : source.Alike r.settings.imports good source')
    (hqueue : ∀ p ∈ r.worklist.queue, good p) : r.drain source' = r.drain source :=
  drainFrom_alike h hqueue []

end Run

end ImportScan
