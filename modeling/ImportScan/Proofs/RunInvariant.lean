import ImportScan.Run

/-!
# What holds of the modules of a run

A run makes a module of every path that it schedules, and later changes it in three ways: it begins
with the file, and it is done with it or gives it up.  A property that new modules have and that
these changes keep holds of all modules at the end, however the run comes to it.

## Main definitions

* `FileModule.opened`, `FileModule.completed`, `FileModule.abandoned` — the three changes.
* `FileModule.Kept` — a property that new modules have and the changes keep.

## Main results

* `Run.drainFrom_invariant` — what the step for one file keeps holds at the end of a run.
* `FileModule.Kept.drain` — **a kept property holds of all modules at the end of a run**.
-/

namespace ImportScan

namespace FileModule

/-- The module when its file is begun with. -/
def opened (m : FileModule) : FileModule := { m with status := .inProgress }

/-- The module when its file is done. -/
def completed (m : FileModule) (text : String) (x : Extraction) : FileModule :=
  { m with
    status := .done
    buffer := text
    imports := x.imports
    exports := x.exports
    segments := (partition? text.toList (x.imports.map ImportRecord.range)).getD [] }

/-- The module when its file is given up. -/
def abandoned (m : FileModule) (text : String) : FileModule :=
  { m with status := .failed, buffer := text }

/-- A property that new modules have and that a run keeps when it changes them. -/
structure Kept (good : FileModule → Prop) : Prop where
  /-- A new module has it. -/
  new : ∀ p, good { path := p }
  /-- Beginning with a file keeps it. -/
  opened : ∀ m, good m → good m.opened
  /-- A file that is done has it. -/
  completed : ∀ m l text x, good m → (extract l text.toList).outcome = .ok x →
    good (m.completed text x)
  /-- A file that is given up has it. -/
  abandoned : ∀ m text, good m → good (m.abandoned text)

end FileModule

namespace Run

/-! ### The steps of a run -/

theorem drainFrom_of_next_eq_none {source : Source} {r : Run} (h : r.worklist.next = none)
    (traces : List (Path × List SeenToken)) :
    (r.drainFrom source traces).run = r := by
  rw [drainFrom]
  split
  · rfl
  · next hnext => cases h.symm.trans hnext

/-- A run whose next file does not stop it goes on from there. -/
theorem drainFrom_of_next_eq_some {source : Source} {r : Run} {p : Path} {w : Worklist}
    {step : Step} (h : r.worklist.next = some (p, w))
    (hstep : process { r with worklist := w } p (source.load p) source.doesExist = step)
    (hfault : step.fault = none) (traces : List (Path × List SeenToken)) :
    ∃ traces', (r.drainFrom source traces).run = (step.run.drainFrom source traces').run := by
  rw [drainFrom]
  split
  · next hnext => cases h.symm.trans hnext
  · next hnext =>
    cases h.symm.trans hnext
    dsimp only
    rw [hstep]
    split
    · next hstops => cases hfault.symm.trans hstops
    · exact ⟨_, rfl⟩

/-- A file that cannot be loaded stops the run as it is. -/
theorem process_of_error {r : Run} {p : Path} (hmodule : (r.module? p).isSome = true)
    (fault : LoadFault) (doesExist : Path → Bool) :
    r.process p (.error fault) doesExist = ⟨r, [], some (.load fault)⟩ := by
  rw [process, if_neg (by simpa [Option.isSome_iff_ne_none] using hmodule)]

theorem process_of_loaded {r : Run} {p : Path} (hmodule : (r.module? p).isSome = true)
    (text : String) (doesExist : Path → Bool) :
    r.process p (.ok text) doesExist = r.scan p text doesExist := by
  rw [process, if_neg (by simpa [Option.isSome_iff_ne_none] using hmodule)]

/-- The step for a file that is loaded and read without a fault. -/
theorem process_of_ok {r : Run} {p : Path} {text : String} {x : Extraction}
    (hmodule : (r.module? p).isSome = true)
    (hx : (extract (r.languageOf p) text.toList).outcome = .ok x) (doesExist : Path → Bool) :
    r.process p (.ok text) doesExist = ⟨(r.update p FileModule.opened).complete p text doesExist x,
      (extract (r.languageOf p) text.toList).seen, none⟩ := by
  rw [process_of_loaded hmodule]
  unfold scan
  dsimp only
  split
  · next x' hx' =>
    cases hx.symm.trans hx'
    rfl
  · next hlex => cases hx.symm.trans hlex
  · next hbalance => cases hx.symm.trans hbalance

/-- What the step for one file keeps holds at the end of a run. -/
theorem drainFrom_invariant {inv : Run → Prop} {source : Source}
    (hstep : ∀ r p w, inv r → r.worklist.next = some (p, w) →
      inv (process { r with worklist := w } p (source.load p) source.doesExist).run)
    {r : Run} (traces : List (Path × List SeenToken)) (h : inv r) :
    inv (r.drainFrom source traces).run := by
  fun_induction drainFrom source traces r with
  | case1 => exact h
  | case2 traces r p w hnext => exact hstep r p w h hnext
  | case3 traces r p w hnext _ _ _ _ _ ih => exact ih (hstep r p w h hnext)

/-- What scheduling a file keeps holds behind all entries. -/
theorem addEntries_invariant {inv : Run → Prop} (hstep : ∀ r p, inv r → inv (r.addEntry p).1)
    {r : Run} (paths : List Path) (h : inv r) : inv (r.addEntries paths) := by
  unfold addEntries
  induction paths generalizing r with
  | nil => exact h
  | cons p paths ih => exact ih (hstep r p h)

/-! ### All modules -/

/-- All modules of a run have a property. -/
def AllModules (good : FileModule → Prop) (r : Run) : Prop := ∀ m ∈ r.modules, good m

end Run

namespace FileModule.Kept

variable {good : FileModule → Prop} {r : Run}

theorem register (h : Kept good) (hr : r.AllModules good) (paths : List Path) :
    (r.register paths).AllModules good := by
  intro m hm
  rcases List.mem_append.1 hm with hm | hm
  · exact hr m hm
  · obtain ⟨p, -, rfl⟩ := List.mem_map.1 hm
    exact h.new p

theorem update {change : FileModule → FileModule} (hr : r.AllModules good)
    (hchange : ∀ m, good m → good (change m)) (p : Path) : (r.update p change).AllModules good := by
  intro m hm
  obtain ⟨m', hm', rfl⟩ := List.mem_map.1 hm
  split
  · exact hchange m' (hr m' hm')
  · exact hr m' hm'

theorem addEntry (h : Kept good) (hr : r.AllModules good) (p : Path) :
    (r.addEntry p).1.AllModules good := by
  unfold Run.addEntry
  split
  · exact h.register hr _
  · exact hr

theorem complete (h : Kept good) (hr : r.AllModules good) {l : Language} {text : String}
    {x : Extraction} (hx : (extract l text.toList).outcome = .ok x) (p : Path)
    (doesExist : Path → Bool) : (r.complete p text doesExist x).AllModules good := by
  refine update ?_ (fun m hm => h.completed m l text x hm hx) p
  exact h.register hr _

theorem scan (h : Kept good) (hr : r.AllModules good) (p : Path) (text : String)
    (doesExist : Path → Bool) : (r.scan p text doesExist).run.AllModules good := by
  have hopened : (r.update p FileModule.opened).AllModules good := update hr h.opened p
  unfold Run.scan
  dsimp only
  split
  · next x hx => exact h.complete hopened hx p doesExist
  · exact update hopened (fun m hm => h.abandoned m text hm) p
  · exact update hopened (fun m hm => h.abandoned m text hm) p

theorem process (h : Kept good) (hr : r.AllModules good) (p : Path)
    (loaded : Except LoadFault String) (doesExist : Path → Bool) :
    (r.process p loaded doesExist).run.AllModules good := by
  unfold Run.process
  split
  · exact hr
  · split
    · exact hr
    · exact h.scan hr p _ doesExist

/-- **A kept property holds of all modules at the end of a run.** -/
theorem drain (h : Kept good) (source : Source) (settings : Settings) (entries : List Path) :
    (Run.drain source ((Run.start settings).addEntries entries)).run.AllModules good := by
  have hstart : (Run.start settings).AllModules good := by
    intro m hm
    cases hm
  have hentries : ((Run.start settings).addEntries entries).AllModules good :=
    Run.addEntries_invariant (fun r p (hr : r.AllModules good) => h.addEntry hr p) entries hstart
  refine Run.drainFrom_invariant (fun r p w (hr : r.AllModules good) _ => ?_) [] hentries
  exact h.process (r := { r with worklist := w }) hr p _ _

end FileModule.Kept

end ImportScan
