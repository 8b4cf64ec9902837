import Mathlib.Data.Finset.Card
import ImportScan.Proofs.RunStages

/-!
# How a run leaves its modules

A run over some texts takes no path twice, and only paths that an entry names or that some text has,
so that it comes to an end.  It takes the paths in the order of its modules, and every file but the
last one taken is done or has failed.  What the last one is depends on what stopped the run.

## Main definitions

* `FileModule.IsSettled`, `FileModule.IsNew` — a file that has been dealt with, and one that has not
  been begun with.
* `Run.Settlement` — how a run leaves its modules.

## Main results

* `Run.Stands.length_le` — no more paths are taken than there are entries and files.
* `Run.settlement_drain` — **every run over some texts comes to an end and leaves its modules
  settled, up to the one that stopped it**.
-/

namespace ImportScan

namespace FileModule

/-- The file has been dealt with. -/
def IsSettled (m : FileModule) : Prop := m.status = .done ∨ m.status = .failed

/-- The file has not been begun with, and nothing is known of it. -/
structure IsNew (m : FileModule) : Prop where
  status : m.status = .pending
  buffer : m.buffer = ""
  imports : m.imports = []
  exports : m.exports = []
  segments : m.segments = []

theorem isNew_of_path (p : Path) : IsNew { path := p } := ⟨rfl, rfl, rfl, rfl, rfl⟩

theorem IsNew.status_ne_inProgress {m : FileModule} (h : m.IsNew) : m.status ≠ .inProgress := by
  rw [h.status]
  decide

theorem IsSettled.status_ne_inProgress {m : FileModule} (h : m.IsSettled) :
    m.status ≠ .inProgress := by
  rcases h with h | h <;> rw [h] <;> decide

theorem isSettled_settled (m : FileModule) (text : String) (outcome : Outcome) :
    (m.settled text outcome).IsSettled := by
  cases outcome with
  | ok x => exact .inl rfl
  | error fault => exact .inr rfl

end FileModule

/-! ### Files that stop a run, and files that do not -/

variable {source : Source} {settings : Settings} {entries taken : List Path} {p : Path}

/-- A file that has been taken is settled, unless it cannot be loaded. -/
theorem Source.read_cases (source : Source) (settings : Settings) (p : Path) :
    (source.read settings p).IsSettled ∨
      (source.read settings p).IsNew ∧ (source.fault? settings p).isSome = true := by
  rw [read, fault?]
  cases source.load p with
  | ok text => exact .inl (FileModule.isSettled_settled _ _ _)
  | error fault => exact .inr ⟨FileModule.isNew_of_path p, rfl⟩

theorem Source.isSettled_read (h : source.fault? settings p = none) :
    (source.read settings p).IsSettled := by
  refine (source.read_cases settings p).resolve_right ?_
  rintro ⟨-, hfault⟩
  rw [h] at hfault
  cases hfault

/-- A file that stops the run cannot be loaded, or has brackets that do not nest where this counts. -/
theorem Source.of_fault?_eq_some {fault : RunFault} (h : source.fault? settings p = some fault) :
    (∃ cause, fault = .load cause ∧ source.load p = .error cause ∧
        (source.read settings p).IsNew) ∨
      ∃ m, fault = .balance m ∧ settings.onMismatch = .abortRun ∧
        (source.read settings p).status = .failed := by
  cases hload : source.load p with
  | error cause =>
    rw [fault?, hload] at h
    rw [read, hload]
    exact .inl ⟨cause, (Option.some.inj h).symm, rfl, FileModule.isNew_of_path p⟩
  | ok text =>
    rw [fault?, hload] at h
    rw [read, hload]
    refine .inr ?_
    dsimp only at h ⊢
    cases houtcome : settings.outcome p text with
    | ok x =>
      rw [houtcome] at h
      cases h
    | error e =>
      rw [houtcome] at h
      cases e with
      -- a fault of the lexer is kept with its file, and the run goes on
      | lex e => cases h
      | balance m =>
        cases hpolicy : settings.onMismatch with
        | skipFile =>
          rw [hpolicy] at h
          cases h
        | abortRun =>
          rw [hpolicy] at h
          cases h
          exact ⟨m, rfl, rfl, rfl⟩

/-- Texts fail to be loaded where there are none. -/
theorem Source.of_load_ofTexts {texts : List (Path × String)} {cause : LoadFault}
    (h : (ofTexts texts).load p = .error cause) :
    cause = .missing p ∧ (ofTexts texts).doesExist p = false := by
  have htext : textOf? texts p = none := by
    cases htext : textOf? texts p with
    | none => rfl
    | some text => simp [ofTexts, htext] at h
  constructor
  · simp only [ofTexts, htext, Except.error.injEq] at h
    exact h.symm
  · simp only [textOf?, Option.map_eq_none_iff, List.find?_eq_none, List.mem_reverse,
      beq_iff_eq] at htext
    simp only [ofTexts, List.contains_eq_mem, List.mem_map, decide_eq_false_iff_not]
    rintro ⟨t, ht, rfl⟩
    exact htext t ht rfl

namespace Run

/-! ### The paths taken -/

theorem Stands.modules_concat {r : Run} (h : r.Stands source settings entries (taken ++ [p])) :
    r.modules = taken.map (source.read settings) ++ source.read settings p ::
      r.worklist.queue.map fun q => { path := q } := by
  rw [h.modules, List.map_append, List.append_assoc]
  rfl

/-- No more paths are taken than there are entries and files. -/
theorem Stands.length_le {r : Run} (h : r.Stands source settings entries taken)
    {files : List Path} (hfiles : ∀ p, source.doesExist p = true → p ∈ files) :
    taken.length ≤ (entries.map Path.collapse).toFinset.card + files.toFinset.card := by
  have hnodup : taken.Nodup := by
    have hscheduled := h.nodup
    rw [h.scheduled] at hscheduled
    exact hscheduled.of_append_left
  -- what has been taken is an entry, or it exists
  have hsubset : taken.toFinset ⊆ (entries.map Path.collapse).toFinset ∪ files.toFinset := by
    intro q hq
    rw [List.mem_toFinset] at hq
    rw [Finset.mem_union, List.mem_toFinset, List.mem_toFinset]
    have hscheduled : q ∈ r.worklist.scheduled := by
      rw [h.scheduled]
      exact List.mem_append_left _ hq
    exact (h.of_mem_scheduled hscheduled).imp_right (hfiles q)
  calc taken.length = taken.toFinset.card := (List.toFinset_card_of_nodup hnodup).symm
    _ ≤ ((entries.map Path.collapse).toFinset ∪ files.toFinset).card := Finset.card_le_card hsubset
    _ ≤ _ := Finset.card_union_le _ _

/-! ### The end -/

/-- How a run from some entries leaves its modules. -/
structure Settlement (source : Source) (settings : Settings) (entries files processed : List Path)
    (result : Result) : Prop where
  /-- The run takes these paths one after the other and ends behind the last one. -/
  drains : Drains source ((start settings).addEntries entries) processed result.run result.error
  /-- There are no more of them than entries and files. -/
  bounded :
    processed.length ≤ (entries.map Path.collapse).toFinset.card + files.toFinset.card
  /-- They are the paths of the modules, in their order. -/
  ordered : processed <+: result.run.modules.map FileModule.path
  /-- Every path that is taken is that of a module. -/
  registered : ∀ e ∈ result.error, ∀ p, e.fault ≠ .unregistered p
  /-- No file is left halfway. -/
  none_inProgress : ∀ m ∈ result.run.modules, m.status ≠ .inProgress
  /-- A run that is not stopped deals with all files. -/
  settled : result.error = none → ∀ m ∈ result.run.modules, m.IsSettled
  /-- A run that is stopped has dealt with the files before one that is missing or has failed, and has
  not begun with those behind it. -/
  stopped : ∀ e ∈ result.error, ∃ before m behind,
    result.run.modules = before ++ m :: behind ∧ m.path = e.path ∧
    (∀ m' ∈ before, m'.IsSettled) ∧ (∀ m' ∈ behind, m'.IsNew) ∧
    (m.IsNew ∧ source.doesExist m.path = false ∧ e.fault = .load (.missing m.path) ∨
      m.status = .failed ∧ settings.onMismatch = .abortRun ∧ ∃ mismatch, e.fault = .balance mismatch)

/-- **Every run over some texts comes to an end and leaves its modules settled, up to the one that
stopped it.** -/
theorem settlement_drain (texts : List (Path × String)) (settings : Settings)
    (entries : List Path) :
    ∃ processed, Settlement (.ofTexts texts) settings entries (texts.map Prod.fst) processed
      (drain (.ofTexts texts) ((start settings).addEntries entries)) := by
  obtain ⟨processed, hdrains, hend, hnone, hsome⟩ :=
    exists_drains (.ofTexts texts) settings entries
  generalize drain (.ofTexts texts) ((start settings).addEntries entries) = result at *
  refine ⟨processed, hdrains, hend.length_le fun _ h => List.contains_iff_mem.1 h, ?_, ?_, ?_, ?_, ?_⟩
  · rw [hend.paths, hend.scheduled]
    exact List.prefix_append _ _
  · -- the fault that stops a run is one of its file
    intro e he p hp
    obtain ⟨hfault, -⟩ := hsome e he
    rcases Source.of_fault?_eq_some hfault with ⟨cause, hcause, -⟩ | ⟨m, hm, -⟩
    · cases hp.symm.trans hcause
    · cases hp.symm.trans hm
  · intro m hm
    rw [hend.modules] at hm
    rcases List.mem_append.1 hm with hm | hm
    · obtain ⟨p, -, rfl⟩ := List.mem_map.1 hm
      rcases Source.read_cases (.ofTexts texts) settings p with hsettled | ⟨hnew, -⟩
      · exact hsettled.status_ne_inProgress
      · exact hnew.status_ne_inProgress
    · obtain ⟨p, -, rfl⟩ := List.mem_map.1 hm
      exact (FileModule.isNew_of_path p).status_ne_inProgress
  · intro herror m hm
    obtain ⟨hqueue, hfaults⟩ := hnone herror
    rw [hend.modules, hqueue, List.map_nil, List.append_nil] at hm
    obtain ⟨p, hp, rfl⟩ := List.mem_map.1 hm
    exact Source.isSettled_read (hfaults p hp)
  · -- the last path taken is the one that stops it
    intro e he
    obtain ⟨hfault, before, rfl, hbefore⟩ := hsome e he
    refine ⟨_, _, _, hend.modules_concat, Source.read_path _ _ _, ?_, ?_, ?_⟩
    · intro m hm
      obtain ⟨p, hp, rfl⟩ := List.mem_map.1 hm
      exact Source.isSettled_read (hbefore p hp)
    · intro m hm
      obtain ⟨p, -, rfl⟩ := List.mem_map.1 hm
      exact FileModule.isNew_of_path p
    · rw [Source.read_path]
      rcases Source.of_fault?_eq_some hfault with ⟨cause, hcause, hload, hnew⟩ |
        ⟨m, hm, hpolicy, hfailed⟩
      · obtain ⟨rfl, habsent⟩ := Source.of_load_ofTexts hload
        exact .inl ⟨hnew, habsent, hcause⟩
      · exact .inr ⟨hfailed, hpolicy, m, hm⟩

end Run

end ImportScan
