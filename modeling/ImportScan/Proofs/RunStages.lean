import ImportScan.Proofs.FileStep

/-!
# The stages of a run

A run takes its paths in the order in which they were scheduled.  At any time the modules are those
of the paths taken so far, each as its file has left it, and behind them new modules for the paths
that wait.  What has been scheduled is what the entries name and what the files taken so far lead to.

## Main definitions

* `Source.read`, `Source.fault?` — what becomes of a file, and whether it stops the run.
* `FileModule.LeadsTo` — a module leads to another file.
* `Run.Drains` — a run takes some paths and comes to its end.
* `Run.Stands` — the state of a run behind some paths.

## Main results

* `Run.drains_drainFrom` — the computed run takes paths until it ends.
* `Run.Stands.process` — **one path more**.
* `Run.Drains.stands`, `Run.Drains.stages`, `Run.Drains.faults` — the state at the end, the states on
  the way and the faults met.
* `Run.exists_drains`, `Run.error_eq_none` — the same for the computed run, and when it is not stopped.
-/

namespace ImportScan

/-! ### Files -/

/-- The module that a file becomes when it is taken from the worklist. -/
def Source.read (source : Source) (settings : Settings) (p : Path) : FileModule :=
  match source.load p with
  | .ok text => FileModule.settled { path := p } text (settings.outcome p text)
  | .error _ => { path := p }

/-- What stops a run at a file. -/
def Source.fault? (source : Source) (settings : Settings) (p : Path) : Option RunFault :=
  match source.load p with
  | .ok text => fileFault settings.onMismatch (settings.outcome p text)
  | .error fault => some (.load fault)

@[simp] theorem Source.read_path (source : Source) (settings : Settings) (p : Path) :
    (source.read settings p).path = p := by
  unfold read
  split
  · exact FileModule.settled_path _ _ _
  · rfl

theorem Source.map_path_read (source : Source) (settings : Settings) (ps : List Path) :
    (ps.map (source.read settings)).map FileModule.path = ps := by
  rw [List.map_map]
  exact (List.map_congr_left fun p _ => source.read_path settings p).trans (List.map_id _)

theorem Source.map_toString_read (source : Source) (settings : Settings) (ps : List Path) :
    (ps.map (source.read settings)).map (fun m => m.path.toString) = ps.map Path.toString :=
  List.map_map.symm.trans (congrArg (List.map Path.toString) (source.map_path_read settings ps))

/-- A file that is loaded and read without a fault. -/
theorem Source.read_of_outcome {source : Source} {settings : Settings} {p : Path} {text : String}
    {x : Extraction} (hload : source.load p = .ok text) (hx : settings.outcome p text = .ok x) :
    source.fault? settings p = none ∧
      source.read settings p = FileModule.completed { path := p } text x := by
  rw [fault?, read, hload]
  dsimp only
  rw [hx]
  exact ⟨rfl, rfl⟩

/-- A module that is done leads to the files that its imports lead to. -/
def FileModule.LeadsTo (m : FileModule) (policy : ImportPolicy) (doesExist : Path → Bool)
    (q : Path) : Prop :=
  m.status = .done ∧ ∃ i ∈ m.imports, policy.Leads doesExist m.path i.specifier q

/-- A file schedules what its module leads to, unless it has been scheduled before. -/
theorem ImportPolicy.mem_led_iff {policy : ImportPolicy} {doesExist : Path → Bool} {w : Worklist}
    {p q : Path} {text : String} {outcome : Outcome} :
    q ∈ policy.led doesExist w p outcome ↔
      q ∉ w.scheduled ∧
        (FileModule.settled { path := p } text outcome).LeadsTo policy doesExist q := by
  cases outcome with
  | ok x =>
    have hresolved := Worklist.resolved_resolve policy doesExist p (Run.specifiers x) w
    rw [led, hresolved.mem_enqueued]
    refine and_congr_right fun _ => ⟨?_, ?_⟩
    · rintro ⟨s, hs, hleads⟩
      obtain ⟨i, hi, rfl⟩ := List.mem_map.1 hs
      exact ⟨rfl, i, hi, hleads⟩
    · rintro ⟨-, i, hi, hleads⟩
      exact ⟨_, List.mem_map.2 ⟨i, hi, rfl⟩, hleads⟩
  | error fault =>
    simp only [led, List.not_mem_nil, false_iff, not_and]
    rintro - ⟨hdone, -⟩
    cases hdone

theorem ImportPolicy.nodup_led (policy : ImportPolicy) (doesExist : Path → Bool) (w : Worklist)
    (p : Path) (outcome : Outcome) : (policy.led doesExist w p outcome).Nodup := by
  cases outcome with
  | ok x => exact (Worklist.resolved_resolve policy doesExist p (Run.specifiers x) w).nodup
  | error fault => exact .nil

namespace Run

/-! ### Taking paths -/

/-- The run takes some paths one after the other.  It ends when none waits, or when a file stops
it. -/
inductive Drains (source : Source) : Run → List Path → Run → Option RunError → Prop where
  | finished {r : Run} (hnext : r.worklist.next = none) : Drains source r [] r none
  | stopped {r : Run} {p : Path} {w : Worklist} {step : Step} {fault : RunFault}
      (hnext : r.worklist.next = some (p, w))
      (hstep : process { r with worklist := w } p (source.load p) source.doesExist = step)
      (hfault : step.fault = some fault) :
    Drains source r [p] step.run (some ⟨p, fault⟩)
  | goesOn {r final : Run} {p : Path} {w : Worklist} {step : Step} {ps : List Path}
      {error : Option RunError} (hnext : r.worklist.next = some (p, w))
      (hstep : process { r with worklist := w } p (source.load p) source.doesExist = step)
      (hfault : step.fault = none) (hrest : Drains source step.run ps final error) :
    Drains source r (p :: ps) final error

/-- The computed run takes paths until it ends. -/
theorem drains_drainFrom (source : Source) (traces : List (Path × List SeenToken)) (r : Run) :
    ∃ ps, Drains source r ps (r.drainFrom source traces).run
      (r.drainFrom source traces).error := by
  fun_induction drainFrom source traces r with
  | case1 traces r hnext => exact ⟨[], .finished hnext⟩
  | case2 traces r p w hnext _ step _ _ fault hfault => exact ⟨[p], .stopped hnext rfl hfault⟩
  | case3 traces r p w hnext _ step _ _ hfault ih =>
    obtain ⟨ps, hrest⟩ := ih
    exact ⟨p :: ps, .goesOn hnext rfl hfault hrest⟩

/-! ### The state behind some paths -/

/-- The state of a run that has taken some paths. -/
structure Stands (source : Source) (settings : Settings) (entries taken : List Path) (r : Run) :
    Prop where
  settings_eq : r.settings = settings
  /-- The paths are taken in the order in which they have been scheduled. -/
  scheduled : r.worklist.scheduled = taken ++ r.worklist.queue
  /-- No path is scheduled twice. -/
  nodup : r.worklist.scheduled.Nodup
  /-- Files that have not been taken are as new. -/
  modules : r.modules =
    taken.map (source.read settings) ++ r.worklist.queue.map fun q => { path := q }
  /-- What has been scheduled is an entry, or a file that has been taken leads to it. -/
  mem_scheduled : ∀ q, q ∈ r.worklist.scheduled ↔ q ∈ entries.map Path.collapse ∨
    ∃ p ∈ taken, (source.read settings p).LeadsTo settings.imports source.doesExist q

variable {source : Source} {settings : Settings} {entries taken ps : List Path} {r final : Run}
  {p : Path} {w : Worklist} {error : Option RunError}

theorem next_eq_some_iff : r.worklist.next = some (p, w) ↔
    ∃ rest, r.worklist.queue = p :: rest ∧ w = ⟨r.worklist.scheduled, rest⟩ := by
  unfold Worklist.next
  split
  · next hqueue => simp [hqueue]
  · next q rest hqueue =>
    simp only [hqueue, Option.some.injEq, Prod.mk.injEq, List.cons.injEq]
    constructor
    · rintro ⟨rfl, rfl⟩
      exact ⟨rest, ⟨rfl, rfl⟩, rfl⟩
    · rintro ⟨rest', ⟨rfl, rfl⟩, rfl⟩
      exact ⟨rfl, rfl⟩

theorem next_eq_none_iff : r.worklist.next = none ↔ r.worklist.queue = [] := by
  unfold Worklist.next
  split <;> simp [*]

theorem queue_ne_nil (h : r.worklist.next = some (p, w)) : r.worklist.queue ≠ [] := by
  obtain ⟨rest, hqueue, -⟩ := next_eq_some_iff.1 h
  simp [hqueue]

theorem map_updated_of_ne {modules : List FileModule} {change : FileModule → FileModule}
    (h : ∀ m ∈ modules, m.path ≠ p) : modules.map (updated p change) = modules := by
  refine (List.map_congr_left fun m hm => ?_).trans (List.map_id _)
  rw [updated, if_neg (h m hm)]
  rfl

/-- Among the modules of different files only one is changed. -/
theorem map_updated_middle {before after : List Path} {read : Path → FileModule}
    (change : FileModule → FileModule) (hread : ∀ q, (read q).path = q) (hbefore : p ∉ before)
    (hafter : p ∉ after) :
    (before.map read ++ ({ path := p } : FileModule) ::
        after.map fun q => ({ path := q } : FileModule)).map (updated p change)
      = before.map read ++ change { path := p } ::
        after.map fun q => ({ path := q } : FileModule) := by
  have hleft : (before.map read).map (updated p change) = before.map read := by
    refine map_updated_of_ne fun m hm => ?_
    obtain ⟨q, hq, rfl⟩ := List.mem_map.1 hm
    rw [hread]
    rintro rfl
    exact hbefore hq
  have hright : (after.map fun q => ({ path := q } : FileModule)).map (updated p change)
      = after.map fun q => ({ path := q } : FileModule) := by
    refine map_updated_of_ne fun m hm => ?_
    obtain ⟨q, hq, rfl⟩ := List.mem_map.1 hm
    rintro rfl
    exact hafter hq
  have hmiddle : updated p change { path := p } = change { path := p } := if_pos rfl
  rw [List.map_append, List.map_cons, hleft, hright, hmiddle]

/-- The run behind a file that cannot be loaded. -/
theorem Stands.unloaded {fault : LoadFault} {rest : List Path}
    (h : r.Stands source settings entries taken) (hqueue : r.worklist.queue = p :: rest)
    (hload : source.load p = .error fault) :
    Stands source settings entries (taken ++ [p])
      { r with worklist := ⟨r.worklist.scheduled, rest⟩ } := by
  have hread : source.read settings p = { path := p } := by
    rw [Source.read, hload]
  refine ⟨h.settings_eq, ?_, h.nodup, ?_, ?_⟩
  · show r.worklist.scheduled = _
    rw [h.scheduled, hqueue]
    simp
  · show r.modules = _
    rw [h.modules, hqueue]
    simp [hread]
  · -- the file leads nowhere
    intro q
    have hnone : ¬ (source.read settings p).LeadsTo settings.imports source.doesExist q := by
      rw [hread]
      rintro ⟨hdone, -⟩
      cases hdone
    show q ∈ r.worklist.scheduled ↔ _
    rw [h.mem_scheduled]
    simp [or_and_right, exists_or, hnone]

/-- The run behind a file that has been scanned. -/
theorem Stands.settle {text : String} {rest : List Path}
    (h : r.Stands source settings entries taken) (hqueue : r.worklist.queue = p :: rest)
    (hload : source.load p = .ok text) :
    Stands source settings entries (taken ++ [p])
      (Run.settle { r with worklist := ⟨r.worklist.scheduled, rest⟩ } p text source.doesExist
        (settings.outcome p text)) := by
  obtain rfl := h.settings_eq
  have hread : source.read r.settings p
      = FileModule.settled { path := p } text (r.settings.outcome p text) := by
    rw [Source.read, hload]
  have hscheduled : r.worklist.scheduled = (taken ++ [p]) ++ rest := by
    rw [h.scheduled, hqueue]
    simp
  have hled : ∀ q, q ∈ r.settings.imports.led source.doesExist ⟨r.worklist.scheduled, rest⟩ p
      (r.settings.outcome p text) ↔ q ∉ r.worklist.scheduled ∧
        (source.read r.settings p).LeadsTo r.settings.imports source.doesExist q := by
    intro q
    rw [hread]
    exact ImportPolicy.mem_led_iff
  have hnodup := r.settings.imports.nodup_led source.doesExist ⟨r.worklist.scheduled, rest⟩ p
    (r.settings.outcome p text)
  unfold Run.settle
  dsimp only
  generalize r.settings.imports.led source.doesExist ⟨r.worklist.scheduled, rest⟩ p
    (r.settings.outcome p text) = led at hled hnodup
  have hwait : (r.worklist.scheduled ++ led).Nodup := by
    refine List.nodup_append.2 ⟨h.nodup, hnodup, ?_⟩
    rintro q hq q' hq' rfl
    exact ((hled q).1 hq').1 hq
  refine ⟨rfl, ?_, hwait, ?_, ?_⟩
  · show r.worklist.scheduled ++ led = _ ++ (rest ++ led)
    rw [hscheduled, List.append_assoc]
  · -- only the module of the file changes
    rw [hscheduled, List.append_assoc, List.append_assoc, List.singleton_append,
      List.nodup_middle, List.nodup_cons, List.mem_append, not_or] at hwait
    obtain ⟨⟨hbefore, hafter⟩, -⟩ := hwait
    have hchanged := map_updated_middle (fun m => m.settled text (r.settings.outcome p text))
      (source.read_path r.settings) hbefore hafter
    show (r.modules ++ _).map _ = (taken ++ [p]).map _ ++ (rest ++ led).map _
    rw [h.modules, hqueue]
    simp only [List.map_append, List.map_cons, List.map_nil, List.append_assoc, hread] at hchanged ⊢
    exact hchanged
  · intro q
    show q ∈ r.worklist.scheduled ++ led ↔ _
    have htaken : (∃ p' ∈ taken ++ [p],
          (source.read r.settings p').LeadsTo r.settings.imports source.doesExist q) ↔
        (∃ p' ∈ taken, (source.read r.settings p').LeadsTo r.settings.imports source.doesExist q) ∨
          (source.read r.settings p).LeadsTo r.settings.imports source.doesExist q := by
      simp [or_and_right, exists_or]
    rw [List.mem_append, hled, htaken, ← or_assoc, ← h.mem_scheduled]
    by_cases hq : q ∈ r.worklist.scheduled <;> simp [hq]

theorem Stands.paths (h : r.Stands source settings entries taken) :
    r.modules.map FileModule.path = r.worklist.scheduled := by
  have hwaiting : (r.worklist.queue.map fun q => ({ path := q } : FileModule)).map FileModule.path
      = r.worklist.queue := by
    rw [List.map_map]
    exact List.map_id _
  rw [h.modules, h.scheduled, List.map_append, source.map_path_read, hwaiting]

theorem Stands.isSome_module? (h : r.Stands source settings entries taken)
    (hp : p ∈ r.worklist.queue) : (r.module? p).isSome = true := by
  rw [module?, List.find?_isSome]
  refine ⟨{ path := p }, ?_, by simp⟩
  rw [h.modules]
  exact List.mem_append_right _ (List.mem_map.2 ⟨p, hp, rfl⟩)

/-- What has been scheduled is an entry or exists. -/
theorem Stands.of_mem_scheduled (h : r.Stands source settings entries taken)
    (hp : p ∈ r.worklist.scheduled) :
    p ∈ entries.map Path.collapse ∨ source.doesExist p = true := by
  rcases (h.mem_scheduled p).1 hp with hentry | ⟨_, -, -, i, -, hleads⟩
  · exact .inl hentry
  · exact .inr hleads.doesExist

/-- **One path more.**  The file is read, what it leads to is scheduled behind all others, and nothing
but its own fault stops the run. -/
theorem Stands.process {step : Step} (h : r.Stands source settings entries taken)
    (hnext : r.worklist.next = some (p, w))
    (hstep : Run.process { r with worklist := w } p (source.load p) source.doesExist = step) :
    step.run.Stands source settings entries (taken ++ [p]) ∧
      step.fault = source.fault? settings p ∧
      r.worklist.scheduled <+: step.run.worklist.scheduled := by
  obtain ⟨rest, hqueue, rfl⟩ := next_eq_some_iff.1 hnext
  have hmodule : (module? { r with worklist := ⟨r.worklist.scheduled, rest⟩ } p).isSome = true :=
    h.isSome_module? (by simp [hqueue])
  cases hload : source.load p with
  | error fault =>
    rw [hload, process_of_error hmodule] at hstep
    subst hstep
    refine ⟨h.unloaded hqueue hload, ?_, List.prefix_refl _⟩
    rw [Source.fault?, hload]
  | ok text =>
    rw [hload, process_of_loaded hmodule, scan_eq] at hstep
    subst hstep
    obtain rfl := h.settings_eq
    refine ⟨h.settle hqueue hload, ?_, List.prefix_append _ _⟩
    rw [Source.fault?, hload]

/-! ### Entries -/

/-- Before any path is taken, the entries wait. -/
theorem stands_addEntries (source : Source) (settings : Settings) (entries : List Path) :
    ((start settings).addEntries entries).Stands source settings entries [] := by
  induction entries using List.reverseRecOn with
  | nil => exact ⟨rfl, rfl, .nil, rfl, fun q => by simp [addEntries, start, Worklist.empty]⟩
  | append_singleton entries p ih =>
    have hlast : (start settings).addEntries (entries ++ [p])
        = (((start settings).addEntries entries).addEntry p).1 := by
      simp [addEntries]
    rw [hlast]
    generalize (start settings).addEntries entries = r at ih
    have hmem : ∀ q, q ∈ r.worklist.scheduled ↔ q ∈ entries.map Path.collapse := by
      simpa using ih.mem_scheduled
    unfold addEntry Worklist.schedule
    by_cases hp : r.worklist.isScheduled p.collapse = true
    · -- the entry has been scheduled before
      rw [if_pos hp]
      refine ⟨ih.settings_eq, ih.scheduled, ih.nodup, ih.modules, fun q => ?_⟩
      have hknown := (hmem p.collapse).1 (Worklist.isScheduled_iff.1 hp)
      show q ∈ r.worklist.scheduled ↔ _
      rw [hmem]
      simp only [List.map_append, List.mem_append, List.map_cons, List.map_nil,
        List.mem_singleton, List.not_mem_nil, false_and, exists_false, or_false]
      constructor
      · exact .inl
      · rintro (hq | rfl)
        · exact hq
        · exact hknown
    · rw [if_neg hp]
      rw [Worklist.isScheduled_iff] at hp
      have hqueue : r.worklist.scheduled = r.worklist.queue := ih.scheduled
      refine ⟨ih.settings_eq, ?_, ?_, ?_, fun q => ?_⟩
      · show r.worklist.scheduled ++ [p.collapse] = [] ++ (r.worklist.queue ++ [p.collapse])
        rw [hqueue, List.nil_append]
      · show (r.worklist.scheduled ++ [p.collapse]).Nodup
        rw [← List.concat_eq_append]
        exact ih.nodup.concat hp
      · show r.modules ++ _ = [] ++ (r.worklist.queue ++ [p.collapse]).map _
        rw [ih.modules]
        simp
      · show q ∈ r.worklist.scheduled ++ [p.collapse] ↔ _
        rw [List.mem_append, hmem]
        simp

/-! ### Whole runs -/

/-- The state at the end of a run. -/
theorem Drains.stands (h : Drains source r ps final error)
    (hr : r.Stands source settings entries taken) :
    final.Stands source settings entries (taken ++ ps) ∧
      r.worklist.scheduled <+: final.worklist.scheduled := by
  induction h generalizing taken with
  | finished => exact ⟨by simpa using hr, List.prefix_refl _⟩
  | stopped hnext hstep _ =>
    obtain ⟨hstands, -, hprefix⟩ := hr.process hnext hstep
    exact ⟨hstands, hprefix⟩
  | goesOn hnext hstep _ _ ih =>
    obtain ⟨hstands, -, hprefix⟩ := hr.process hnext hstep
    obtain ⟨hfinal, hprefix'⟩ := ih hstands
    rw [List.append_assoc, List.singleton_append] at hfinal
    exact ⟨hfinal, hprefix.trans hprefix'⟩

/-- What holds of the entries, and of what a file leads to when it holds of the file, holds of all that
has been scheduled. -/
theorem Drains.forall_scheduled {good : Path → Prop} (h : Drains source r ps final error)
    (hr : r.Stands source settings entries taken)
    (hentries : ∀ q ∈ entries.map Path.collapse, good q)
    (hleads : ∀ p q, good p →
      (source.read settings p).LeadsTo settings.imports source.doesExist q → good q)
    (hgood : ∀ q ∈ r.worklist.scheduled, good q) : ∀ q ∈ final.worklist.scheduled, good q := by
  have hstep : ∀ {r : Run} {taken : List Path} {p : Path} {w : Worklist} {step : Step},
      r.Stands source settings entries taken → (∀ q ∈ r.worklist.scheduled, good q) →
      r.worklist.next = some (p, w) →
      Run.process { r with worklist := w } p (source.load p) source.doesExist = step →
      ∀ q ∈ step.run.worklist.scheduled, good q := by
    intro r taken p w step hr hgood hnext hstep q hq
    -- the files taken so far and this one were scheduled before
    rcases ((hr.process hnext hstep).1.mem_scheduled q).1 hq with hentry | ⟨p', hp', hto⟩
    · exact hentries q hentry
    · refine hleads p' q (hgood p' ?_) hto
      obtain ⟨rest, hqueue, -⟩ := next_eq_some_iff.1 hnext
      rw [hr.scheduled, hqueue]
      simpa [or_assoc] using Or.imp_right Or.inl (List.mem_append.1 hp')
  induction h generalizing taken with
  | finished => exact hgood
  | stopped hnext hprocess _ => exact hstep hr hgood hnext hprocess
  | goesOn hnext hprocess _ _ ih =>
    exact ih (hr.process hnext hprocess).1 (hstep hr hgood hnext hprocess)

/-- The states on the way: behind each of the paths there is one, in which no more is scheduled than
at the end, and in which some path waits unless all have been taken. -/
theorem Drains.stages (h : Drains source r ps final error)
    (hr : r.Stands source settings entries taken) {k : Nat} (hk : k ≤ ps.length) :
    ∃ s : Run, s.Stands source settings entries (taken ++ ps.take k) ∧
      s.worklist.scheduled <+: final.worklist.scheduled ∧
      (k < ps.length → s.worklist.queue ≠ []) := by
  -- behind the first path the run goes on from the state that the step for it leaves
  induction h generalizing taken k with
  | finished =>
    obtain rfl : k = 0 := Nat.le_zero.1 hk
    exact ⟨_, by simpa using hr, List.prefix_refl _, by simp⟩
  | stopped hnext hstep hfault =>
    obtain ⟨hstands, -, hprefix⟩ := hr.process hnext hstep
    cases k with
    | zero => exact ⟨_, by simpa using hr, hprefix, fun _ => queue_ne_nil hnext⟩
    | succ k =>
      obtain rfl : k = 0 := by simpa using hk
      exact ⟨_, hstands, List.prefix_refl _, by simp⟩
  | goesOn hnext hstep hfault hrest ih =>
    obtain ⟨hstands, -, hprefix⟩ := hr.process hnext hstep
    cases k with
    | zero =>
      exact ⟨_, by simpa using hr, hprefix.trans (hrest.stands hstands).2,
        fun _ => queue_ne_nil hnext⟩
    | succ k =>
      obtain ⟨s, hs, hprefix', hwaits⟩ := ih hstands (Nat.le_of_succ_le_succ hk)
      rw [List.append_assoc, List.singleton_append] at hs
      exact ⟨s, hs, hprefix', fun hlt => hwaits (Nat.lt_of_succ_lt_succ hlt)⟩

/-- The faults that a run has met: none, unless the last path stopped it. -/
theorem Drains.faults (h : Drains source r ps final error)
    (hr : r.Stands source settings entries taken) :
    (error = none → final.worklist.queue = [] ∧ ∀ p ∈ ps, source.fault? settings p = none) ∧
      ∀ e, error = some e → source.fault? settings e.path = some e.fault ∧
        ∃ before, ps = before ++ [e.path] ∧ ∀ p ∈ before, source.fault? settings p = none := by
  induction h generalizing taken with
  | finished hnext => exact ⟨fun _ => ⟨next_eq_none_iff.1 hnext, by simp⟩, by simp⟩
  | stopped hnext hstep hfault =>
    obtain ⟨-, hown, -⟩ := hr.process hnext hstep
    refine ⟨by simp, fun e he => ?_⟩
    cases he
    exact ⟨hown.symm.trans hfault, [], rfl, by simp⟩
  | goesOn hnext hstep hfault _ ih =>
    obtain ⟨hstands, hown, -⟩ := hr.process hnext hstep
    obtain ⟨hnone, hsome⟩ := ih hstands
    refine ⟨fun herror => ?_, fun e he => ?_⟩
    · obtain ⟨hqueue, hps⟩ := hnone herror
      exact ⟨hqueue, List.forall_mem_cons.2 ⟨hown.symm.trans hfault, hps⟩⟩
    · obtain ⟨hlast, before, rfl, hbefore⟩ := hsome e he
      exact ⟨hlast, _ :: before, rfl,
        List.forall_mem_cons.2 ⟨hown.symm.trans hfault, hbefore⟩⟩

/-- The computed run takes some paths, its state at the end is the one behind them, and it has met no
fault but that of the last path, if it has stopped there. -/
theorem exists_drains (source : Source) (settings : Settings) (entries : List Path) :
    ∃ ps, Drains source ((start settings).addEntries entries) ps
        (drain source ((start settings).addEntries entries)).run
        (drain source ((start settings).addEntries entries)).error ∧
      (drain source ((start settings).addEntries entries)).run.Stands source settings entries ps ∧
      ((drain source ((start settings).addEntries entries)).error = none →
        (drain source ((start settings).addEntries entries)).run.worklist.queue = [] ∧
        ∀ p ∈ ps, source.fault? settings p = none) ∧
      ∀ e, (drain source ((start settings).addEntries entries)).error = some e →
        source.fault? settings e.path = some e.fault ∧
        ∃ before, ps = before ++ [e.path] ∧ ∀ p ∈ before, source.fault? settings p = none := by
  have hstart := stands_addEntries source settings entries
  obtain ⟨ps, hdrains⟩ := drains_drainFrom source [] ((start settings).addEntries entries)
  exact ⟨ps, hdrains, (hdrains.stands hstart).1, hdrains.faults hstart⟩

/-- Files that do not stop a run one by one do not stop it together. -/
theorem error_eq_none (h : ∀ p, p ∈ entries.map Path.collapse ∨ source.doesExist p = true →
    source.fault? settings p = none) :
    (drain source ((start settings).addEntries entries)).error = none := by
  obtain ⟨ps, -, hend, -, hstopped⟩ := exists_drains source settings entries
  cases herror : (drain source ((start settings).addEntries entries)).error with
  | none => rfl
  | some e =>
    obtain ⟨hfault, before, rfl, -⟩ := hstopped e herror
    have hmem : e.path ∈ (drain source
        ((start settings).addEntries entries)).run.worklist.scheduled := by
      rw [hend.scheduled]
      simp
    cases hfault.symm.trans (h e.path (hend.of_mem_scheduled hmem))

end Run

end ImportScan
