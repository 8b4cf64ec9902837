import ImportScan.Proofs.PathName
import ImportScan.Proofs.RunIssues
import ImportScan.Proofs.StatementApart

/-!
# The issues of a run

The issues of a run stand in the order of its modules, and those of one module tell what became of
it.  A module that has failed has one error and leads nowhere.  One that is done has a warning for
each statement that could not be understood, and behind them one for each import that names no file.
A module that could not be read has none, and ends the run.

No two issues of a module are at one place.  Those of different modules are told apart by the names of
their files, as long as no two of these are shown alike.

## Main definitions

* `ImportPolicy.misses` — an import names a file that is not there.
* `FileModule.Fails`, `FileModule.Succeeds` — what is told of a module that has failed, and of one
  that is done.
* `Tells` — what some issues tell of some modules, with the paths scheduled before and behind them.
* `FileModule.Owns` — the issues carry the name of the module, and no two of them are at one place.

## Main results

* `Run.Drains.tells` — what the issues of a run tell.
* `Tells.owns`, `nodup_place_of_owns` — the issues of each module, and of all of them.
* `Run.issues_drain` — **the issues of a run account for its modules**.
* `Run.issues_drain_lookalike` — two issues at one place, in files that are shown alike.
-/

namespace ImportScan

/-- The file, the line and the column of an issue. -/
def Issue.place (i : Issue) : String × Nat × Nat :=
  (i.context.file, i.context.line, i.context.column)

/-- The line and the column of an issue. -/
def Issue.spot (i : Issue) : Nat × Nat := (i.context.line, i.context.column)

/-- Whether the issue is an error. -/
def Issue.isError (i : Issue) : Bool := i.problem.severity == .error

/-- An import is to be followed, and names a file that has not been scheduled and is not there. -/
def ImportPolicy.misses (policy : ImportPolicy) (doesExist : Path → Bool) (scheduled : List Path)
    (importer : Path) (r : ImportRecord) : Bool :=
  let path := importer.resolve r.specifier
  policy.follow && policy.extractable r.specifier && !policy.ignored path &&
    !scheduled.contains path && !doesExist path

namespace FileModule

variable (source : Source) (settings : Settings)

/-- The warning about an import of the module that names no file. -/
def missing (m : FileModule) (r : ImportRecord) : Issue :=
  ⟨Run.contextAt m.path m.buffer r.loc,
    .unresolved r.specifier (m.path.resolve r.specifier).toString⟩

/-- The module has failed: its text has been read, nothing is known but one error. -/
structure Fails (m : FileModule) (issue : Issue) : Prop where
  status : m.status = .failed
  buffer : source.load m.path = .ok m.buffer
  imports : m.imports = []
  exports : m.exports = []
  segments : m.segments = []
  /-- The error is the one that the pass over the text ends with. -/
  cause : (∃ e, settings.outcome m.path m.buffer = .error (.lex e) ∧
      issue = Run.lexIssue m.path m.buffer e) ∨
    ∃ b, settings.outcome m.path m.buffer = .error (.balance b) ∧
      issue = Run.balanceIssue m.path m.buffer b
  isError : issue.isError = true
  file : issue.context.file = m.path.toString

/-- The module is done: its records account for the statements of its text, and its issues for those
that could not be understood and for the imports that name no file. -/
structure Succeeds (m : FileModule) (scheduled led : List Path) (issues : List Issue) : Prop where
  status : m.status = .done
  buffer : source.load m.path = .ok m.buffer
  account : ∃ x ss o, settings.outcome m.path m.buffer = .ok x ∧
    Decomposes (extract (settings.language.getD m.path.language) m.buffer.toList).tokens ss o ∧
    Accounts ss o x ∧ m.imports = x.imports ∧ m.exports = x.exports ∧
    issues = x.malformed.map (Run.malformedIssue m.path m.buffer) ++
      (m.imports.filter (settings.imports.misses source.doesExist scheduled m.path)).map m.missing
  isError : ∀ i ∈ issues, i.isError = false
  file : ∀ i ∈ issues, i.context.file = m.path.toString
  /-- It has scheduled the files that it leads to, each once and unless they were before. -/
  nodup_led : led.Nodup
  mem_led : ∀ q, q ∈ led ↔ q ∉ scheduled ∧ m.LeadsTo settings.imports source.doesExist q

/-- The issues are those of one file: they carry its name, and no two of them are at one place. -/
structure Owns (m : FileModule) (own : List Issue) : Prop where
  file : ∀ i ∈ own, i.context.file = m.path.toString
  nodup_spot : (own.map Issue.spot).Nodup

end FileModule

/-- What the issues of the modules that a run has taken tell of them, with the paths that are
scheduled before the first of them and behind the last. -/
inductive Tells (source : Source) (settings : Settings) :
    List Path → List FileModule → List (List Issue) → List Path → Prop where
  | finished (scheduled : List Path) : Tells source settings scheduled [] [] scheduled
  /-- A file that cannot be read ends the run. -/
  | unread {scheduled : List Path} {m : FileModule} {fault : LoadFault} (hnew : m.IsNew)
      (hload : source.load m.path = .error fault) :
    Tells source settings scheduled [m] [[]] scheduled
  /-- A file that has failed has one issue and schedules nothing. -/
  | failed {scheduled after : List Path} {m : FileModule} {ms : List FileModule} {issue : Issue}
      {owned : List (List Issue)} (hm : m.Fails source settings issue)
      (hrest : Tells source settings scheduled ms owned after) :
    Tells source settings scheduled (m :: ms) ([issue] :: owned) after
  /-- A file that is done has its own issues and schedules what it leads to. -/
  | done {scheduled led after : List Path} {m : FileModule} {ms : List FileModule}
      {own : List Issue} {owned : List (List Issue)}
      (hm : m.Succeeds source settings scheduled led own)
      (hrest : Tells source settings (scheduled ++ led) ms owned after) :
    Tells source settings scheduled (m :: ms) (own :: owned) after

/-! ### One file -/

variable {source : Source} {settings : Settings} {policy : ImportPolicy} {doesExist : Path → Bool}
  {w : Worklist} {p : Path} {text : String} {x : Extraction}

/-- The complaints about the imports of a file are the warnings about those that name no file. -/
theorem map_unresolvedIssue (policy : ImportPolicy) (doesExist : Path → Bool) (w : Worklist)
    (p : Path) (text : String) (imports : List ImportRecord) :
    ((imports.map fun r => (r.specifier, r.loc)).filterMap (w.unresolved? policy doesExist p)).map
        (Run.unresolvedIssue p text)
      = (imports.filter (policy.misses doesExist w.scheduled p)).map fun r =>
          ⟨Run.contextAt p text r.loc,
            .unresolved r.specifier (p.resolve r.specifier).toString⟩ := by
  induction imports with
  | nil => rfl
  | cons r imports ih =>
    have hone : w.unresolved? policy doesExist p (r.specifier, r.loc)
        = if policy.misses doesExist w.scheduled p r = true then
            some ⟨r.specifier, p.resolve r.specifier, r.loc⟩ else none := rfl
    -- all imports of a file meet the worklist as it is before the first of them
    rw [List.map_cons]
    by_cases hmisses : policy.misses doesExist w.scheduled p r = true
    · rw [if_pos hmisses] at hone
      rw [List.filterMap_cons_some hone, List.filter_cons_of_pos hmisses, List.map_cons,
        List.map_cons, ih]
      rfl
    · rw [if_neg hmisses] at hone
      rw [List.filterMap_cons_none hone, List.filter_cons_of_neg hmisses, ih]

/-- What is told of a file that is done. -/
theorem succeeds_read (hload : source.load p = .ok text) (hx : settings.outcome p text = .ok x)
    (w : Worklist) :
    (source.read settings p).Succeeds source settings w.scheduled
      (settings.imports.led source.doesExist w p (.ok x))
      (fileIssues settings.imports source.doesExist w p text (.ok x)) := by
  have hread := (Source.read_of_outcome hload hx).2
  obtain ⟨ss, o, hdecomposes, haccounts, -⟩ := exists_accounts hx
  -- the complaints come first, then the imports that are missing
  have hissues : fileIssues settings.imports source.doesExist w p text (.ok x)
      = x.malformed.map (Run.malformedIssue p text) ++
        (x.imports.filter (settings.imports.misses source.doesExist w.scheduled p)).map
          (FileModule.completed { path := p } text x).missing := by
    rw [fileIssues, Run.specifiers, map_unresolvedIssue]
    rfl
  have hmem : ∀ i ∈ fileIssues settings.imports source.doesExist w p text (.ok x),
      i.isError = false ∧ i.context.file = p.toString := by
    intro i hi
    rcases List.mem_append.1 hi with hi | hi
    · obtain ⟨m, -, rfl⟩ := List.mem_map.1 hi
      exact ⟨rfl, rfl⟩
    · obtain ⟨u, -, rfl⟩ := List.mem_map.1 hi
      exact ⟨rfl, rfl⟩
  have hled : ∀ q, q ∈ settings.imports.led source.doesExist w p (.ok x) ↔ q ∉ w.scheduled ∧
      (FileModule.settled { path := p } text (.ok x)).LeadsTo settings.imports source.doesExist q :=
    fun q => ImportPolicy.mem_led_iff
  rw [hread]
  exact ⟨rfl, hload, ⟨x, ss, o, hx, hdecomposes, haccounts, rfl, rfl, hissues⟩,
    fun i hi => (hmem i hi).1, fun i hi => (hmem i hi).2,
    ImportPolicy.nodup_led _ _ _ _ _, hled⟩

/-- What is told of a file that has failed. -/
theorem exists_fails_read {fault : ExtractionFault} (hload : source.load p = .ok text)
    (hfault : settings.outcome p text = .error fault) (w : Worklist) :
    ∃ issue, fileIssues settings.imports source.doesExist w p text (.error fault) = [issue] ∧
      (source.read settings p).Fails source settings issue := by
  have hread : source.read settings p = FileModule.abandoned { path := p } text := by
    rw [Source.read, hload]
    dsimp only
    rw [hfault]
    rfl
  rw [hread]
  cases fault with
  | lex e =>
    exact ⟨_, rfl, rfl, hload, rfl, rfl, rfl, .inl ⟨e, hfault, rfl⟩, rfl, rfl⟩
  | balance b =>
    exact ⟨_, rfl, rfl, hload, rfl, rfl, rfl, .inr ⟨b, hfault, rfl⟩, rfl, rfl⟩

/-- What is told of a file that has been loaded, and behind it of others. -/
theorem Tells.cons {ms : List FileModule} {owned : List (List Issue)} {after : List Path}
    (hload : source.load p = .ok text) (w : Worklist)
    (hrest : Tells source settings
      (w.scheduled ++ settings.imports.led source.doesExist w p (settings.outcome p text))
      ms owned after) :
    Tells source settings w.scheduled (source.read settings p :: ms)
      (fileIssues settings.imports source.doesExist w p text (settings.outcome p text) :: owned)
      after := by
  cases houtcome : settings.outcome p text with
  | ok x =>
    rw [houtcome] at hrest
    exact .done (succeeds_read hload houtcome w) hrest
  | error fault =>
    obtain ⟨issue, hissue, hfails⟩ := exists_fails_read hload houtcome w
    -- what has failed schedules nothing
    rw [houtcome, ImportPolicy.led, List.append_nil] at hrest
    rw [hissue]
    exact .failed hfails hrest

/-! ### What the issues tell -/

section Told

variable {scheduled after : List Path} {ms : List FileModule} {owned : List (List Issue)}

/-- There are as many errors as modules that have failed. -/
theorem Tells.countP_isError (h : Tells source settings scheduled ms owned after) :
    owned.flatten.countP Issue.isError = ms.countP fun m => m.status == .failed := by
  induction h with
  | finished => rfl
  | unread hnew _ =>
    have hstatus := hnew.status
    simp [hstatus]
  | failed hm _ ih =>
    have hstatus := hm.status
    rw [List.flatten_cons, List.singleton_append, List.countP_cons_of_pos hm.isError,
      List.countP_cons_of_pos (by simp [hstatus]), ih]
  | @done _ _ _ _ _ own _ hm _ ih =>
    have hnone : own.countP Issue.isError = 0 :=
      List.countP_eq_zero.2 fun i hi => by simp [hm.isError i hi]
    have hstatus := hm.status
    rw [List.flatten_cons, List.countP_append, hnone, Nat.zero_add, ih,
      List.countP_cons_of_neg (by simp [hstatus])]

/-- No two issues of a module that is done are at one place. -/
theorem FileModule.Succeeds.nodup_spot {m : FileModule} {led : List Path} {issues : List Issue}
    (h : m.Succeeds source settings scheduled led issues) : (issues.map Issue.spot).Nodup := by
  obtain ⟨x, -, -, hx, -, -, himports, -, rfl⟩ := h.account
  rw [himports]
  let missed := x.imports.filter (settings.imports.misses source.doesExist scheduled m.path)
  -- an issue stands where the statement does that it complains about
  have hsublist : (x.malformed.map Malformed.loc ++ missed.map ImportRecord.loc).Sublist x.locs :=
    (List.Sublist.refl _).append (List.filter_sublist.map _)
  have hspots := (nodup_spot_locs hx).sublist (hsublist.map Location.spot)
  have hsame : (x.malformed.map (Run.malformedIssue m.path m.buffer) ++
        missed.map m.missing).map Issue.spot
      = (x.malformed.map Malformed.loc ++ missed.map ImportRecord.loc).map Location.spot := by
    simp only [List.map_append, List.map_map]
    rfl
  rw [hsame]
  exact hspots

/-- Each module has its own issues. -/
theorem Tells.owns (h : Tells source settings scheduled ms owned after) :
    List.Forall₂ FileModule.Owns ms owned := by
  induction h with
  | finished => exact .nil
  | unread => exact .cons ⟨by simp, .nil⟩ .nil
  | failed hm _ ih => exact .cons ⟨by simpa using hm.file, List.nodup_singleton _⟩ ih
  | done hm _ ih => exact .cons ⟨hm.file, hm.nodup_spot⟩ ih

/-- Every issue carries the name of one of the modules. -/
theorem exists_module_of_owns (h : List.Forall₂ FileModule.Owns ms owned) :
    ∀ i ∈ owned.flatten, ∃ m ∈ ms, i.context.file = m.path.toString := by
  induction h with
  | nil => simp
  | cons hm _ ih =>
    intro i hi
    rcases List.mem_append.1 hi with hi | hi
    · exact ⟨_, List.mem_cons_self, hm.file i hi⟩
    · obtain ⟨m, hmem, hfile⟩ := ih i hi
      exact ⟨m, List.mem_cons_of_mem _ hmem, hfile⟩

/-- No two issues are at one place when no two modules are shown alike. -/
theorem nodup_place_of_owns (h : List.Forall₂ FileModule.Owns ms owned)
    (hnames : (ms.map fun m => m.path.toString).Nodup) :
    (owned.flatten.map Issue.place).Nodup := by
  induction h with
  | nil => exact .nil
  | @cons m own ms owned hm hrest ih =>
    obtain ⟨hnotMem, hrestNames⟩ := List.nodup_cons.1 hnames
    have hown : own.map Issue.place = (own.map Issue.spot).map fun spot => (m.path.toString, spot) := by
      rw [List.map_map]
      exact List.map_congr_left fun i hi => congrArg (·, i.spot) (hm.file i hi)
    rw [List.flatten_cons, List.map_append, List.nodup_append]
    refine ⟨?_, ih hrestNames, ?_⟩
    · rw [hown]
      exact hm.nodup_spot.map fun _ _ heq => (Prod.mk.inj heq).2
    · -- the issues of the other modules carry other names
      intro place hplace place' hplace' heq
      obtain ⟨i, hi, rfl⟩ := List.mem_map.1 hplace
      obtain ⟨j, hj, rfl⟩ := List.mem_map.1 hplace'
      obtain ⟨m', hm', hname⟩ := exists_module_of_owns hrest j hj
      refine hnotMem (List.mem_map.2 ⟨m', hm', ?_⟩)
      calc m'.path.toString = j.context.file := hname.symm
        _ = i.context.file := (Prod.mk.inj heq).1.symm
        _ = m.path.toString := hm.file i hi

end Told

/-! ### Whole runs -/

namespace Run

variable {entries taken ps : List Path} {r final : Run} {error : Option RunError}

/-- What the issues of a run tell of the files that it takes. -/
theorem Drains.tells (h : Drains source r ps final error)
    (hr : r.Stands source settings entries taken) :
    ∃ owned, final.issues = r.issues ++ owned.flatten ∧
      Tells source settings r.worklist.scheduled (ps.map (source.read settings)) owned
        final.worklist.scheduled := by
  induction h generalizing taken with
  | finished => exact ⟨[], (List.append_nil _).symm, .finished _⟩
  | @stopped r p w step fault hnext hstep hfault =>
    obtain ⟨hloaded, hunread⟩ := hr.process_issues hnext hstep
    obtain ⟨rest, hqueue, rfl⟩ := next_eq_some_iff.1 hnext
    cases hload : source.load p with
    | ok text =>
      obtain ⟨hscheduled, hissues⟩ := hloaded text hload
      refine ⟨[_], by rw [hissues, List.flatten_singleton], ?_⟩
      rw [hscheduled]
      exact Tells.cons hload ⟨r.worklist.scheduled, rest⟩ (.finished _)
    | error fault =>
      obtain ⟨hscheduled, hissues, -⟩ := hunread fault hload
      have hread : source.read settings p = { path := p } := by
        rw [Source.read, hload]
      refine ⟨[[]], by rw [hissues, List.flatten_singleton, List.append_nil], ?_⟩
      rw [hscheduled, List.map_singleton, hread]
      exact .unread (FileModule.isNew_of_path p) hload
  | @goesOn r final p w step ps error hnext hstep hfault _ ih =>
    obtain ⟨hstands, -, -⟩ := hr.process hnext hstep
    obtain ⟨hloaded, hunread⟩ := hr.process_issues hnext hstep
    obtain ⟨owned, hfinal, htells⟩ := ih hstands
    obtain ⟨rest, hqueue, rfl⟩ := next_eq_some_iff.1 hnext
    cases hload : source.load p with
    | ok text =>
      obtain ⟨hscheduled, hissues⟩ := hloaded text hload
      rw [hscheduled] at htells
      refine ⟨_ :: owned, ?_, Tells.cons hload ⟨r.worklist.scheduled, rest⟩ htells⟩
      rw [hfinal, hissues, List.flatten_cons, List.append_assoc]
    | error fault =>
      -- such a file does not let the run go on
      obtain ⟨-, -, hstops⟩ := hunread fault hload
      cases hstops.symm.trans hfault

/-- The paths of a run whose entries are texts are canonical. -/
theorem Drains.isCanonical
    (h : Drains source ((start settings).addEntries entries) ps final error)
    (hplain : ∀ p ∈ entries, p.IsPlain) : ∀ q ∈ final.worklist.scheduled, q.IsCanonical := by
  have hstart := stands_addEntries source settings entries
  have hentries : ∀ q ∈ entries.map Path.collapse, q.IsCanonical := by
    intro q hq
    obtain ⟨p, hp, rfl⟩ := List.mem_map.1 hq
    exact (hplain p hp).collapse
  -- an entry is collapsed when it is added, and a specifier when it is resolved
  refine h.forall_scheduled hstart hentries ?_ ?_
  · rintro p q hp ⟨-, i, -, hleads⟩
    rw [← hleads.resolve, Source.read_path]
    exact hp.plain.resolve i.specifier
  · intro q hq
    have hentry := (hstart.mem_scheduled q).1 hq
    exact hentries q (hentry.resolve_right (by simp))

/-- No two of the files that a run takes are shown alike, if its entries are texts. -/
theorem Drains.nodup_names
    (h : Drains source ((start settings).addEntries entries) ps final error)
    (hplain : ∀ p ∈ entries, p.IsPlain) : (ps.map Path.toString).Nodup := by
  have hcanonical : ∀ p ∈ ps, p.IsCanonical := by
    intro p hp
    apply h.isCanonical hplain
    rw [h.scheduled_eq]
    exact List.mem_append_left _ hp
  -- different paths have different names, since a canonical path is read back from its name
  rw [List.Nodup, List.pairwise_map]
  refine h.nodup.imp_of_mem fun {p q} hp hq hne heq => hne ?_
  exact (hcanonical p hp).toString_inj (hcanonical q hq) heq

/-- No two issues of a run are at one place if no two of the files that it takes are shown alike. -/
theorem Drains.nodup_place
    (h : Drains source ((start settings).addEntries entries) ps final error)
    (hnames : (ps.map Path.toString).Nodup) : (final.issues.map Issue.place).Nodup := by
  obtain ⟨owned, hissues, htells⟩ := h.tells (stands_addEntries source settings entries)
  rw [addEntries_issues, List.nil_append] at hissues
  rw [hissues]
  refine nodup_place_of_owns htells.owns ?_
  rwa [source.map_toString_read]

/-- **The issues of a run account for its modules.**  Whether or not something stops the run, its
modules are those that it has taken, and behind them new ones.  The issues are those that the
modules taken have, in their order.  There are as many errors as modules that have failed.  No two
issues of one module are at the same line and column, and so no two issues of the run are in the same
file at the same line and column if no two of the modules taken are shown alike.  This is so when the
entries are texts. -/
theorem issues_drain (source : Source) (settings : Settings) (entries : List Path) :
    let initial := (start settings).addEntries entries
    let final := (drain source initial).run
    ∃ taken waiting owned, final.modules = taken ++ waiting ∧ (∀ m ∈ waiting, m.IsNew) ∧
      final.issues = owned.flatten ∧
      Tells source settings initial.worklist.scheduled taken owned final.worklist.scheduled ∧
      final.issues.countP Issue.isError = final.modules.countP (fun m => m.status == .failed) ∧
      (taken.map FileModule.path).Nodup ∧ List.Forall₂ FileModule.Owns taken owned ∧
      ((taken.map fun m => m.path.toString).Nodup → (final.issues.map Issue.place).Nodup) ∧
      ((∀ p ∈ entries, p.IsPlain) → (taken.map fun m => m.path.toString).Nodup) := by
  intro initial final
  obtain ⟨ps, hdrains, hend, -⟩ := exists_drains source settings entries
  obtain ⟨owned, hissues, htells⟩ := hdrains.tells (stands_addEntries source settings _)
  rw [addEntries_issues, List.nil_append] at hissues
  -- a module that waits has not failed
  have hwaiting : ∀ m ∈ final.worklist.queue.map fun q => ({ path := q } : FileModule),
      m.IsNew := by
    intro m hm
    obtain ⟨q, -, rfl⟩ := List.mem_map.1 hm
    exact FileModule.isNew_of_path q
  have hnone : (final.worklist.queue.map fun q => ({ path := q } : FileModule)).countP
      (fun m => m.status == .failed) = 0 := by
    refine List.countP_eq_zero.2 fun m hm => ?_
    have hstatus := (hwaiting m hm).status
    simp [hstatus]
  have hmodules : final.modules = _ := hend.modules
  refine ⟨_, _, owned, hmodules, hwaiting, hissues, htells, ?_, ?_, htells.owns, ?_, ?_⟩
  · rw [hissues, htells.countP_isError, hmodules, List.countP_append, hnone, Nat.add_zero]
  · rw [source.map_path_read]
    exact hdrains.nodup
  · rw [source.map_toString_read]
    exact hdrains.nodup_place
  · rw [source.map_toString_read]
    exact hdrains.nodup_names

/-- Two issues of a run are at one place, in two files that are shown alike. -/
theorem issues_drain_lookalike :
    let initial := (start Lookalike.settings).addEntries [Lookalike.first, Lookalike.second]
    let final := (drain (.ofTexts Lookalike.texts) initial).run
    Lookalike.first ≠ Lookalike.second ∧ ¬ (final.issues.map Issue.place).Nodup := by
  intro initial final
  have hissues : final.issues = [Lookalike.issue "'x", Lookalike.issue "'y"] :=
    Lookalike.issues_of_pair (a := (Lookalike.first, "'x")) (b := (Lookalike.second, "'y"))
      (by simp [Lookalike.texts]) (by simp [Lookalike.texts]) (by simp)
  refine ⟨by decide, ?_⟩
  rw [hissues]
  simp [Lookalike.issue, Issue.place]

end Run

end ImportScan
