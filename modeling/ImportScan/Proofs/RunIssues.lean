import ImportScan.Proofs.IssuePlace
import ImportScan.Proofs.Settlement

/-!
# Issues file by file

The step for a file adds its issues behind those found before.  When the files that a run starts from
exist, the issues of a file do not depend on the files taken before it, so that those of the run are
those of its files, each by itself.

An issue carries the name of its file as it is shown.  Two names that are no texts may be shown alike,
and then the issues of two files may look as if they were those of one.

## Main definitions

* `Source.issuesOf` — the issues of a file by itself.
* `Lookalike.texts` — two files that are shown alike.

## Main results

* `Run.Stands.process_issues` — what the step for a file does to the issues.
* `fileIssues_eq_of_exist` — a file has the same issues whatever has been scheduled, if that exists.
* `Run.Drains.issues_eq` — **the issues of a run are those of its files**.
* `Run.issues_eq_of_stays` — the same for a run whose entries lead nowhere, which takes no other files.
-/

namespace ImportScan

section

variable {source : Source} {settings : Settings} {policy : ImportPolicy} {doesExist : Path → Bool}
  {w : Worklist} {p : Path} {text : String}

/-! ### One file -/

/-- The issues that a file has when nothing else has been scheduled. -/
def Source.issuesOf (source : Source) (settings : Settings) (p : Path) : List Issue :=
  match source.load p with
  | .ok text =>
    fileIssues settings.imports source.doesExist .empty p text (settings.outcome p text)
  | .error _ => []

/-- An import that names no file is told whatever has been scheduled, if all of that exists. -/
theorem Worklist.unresolved?_eq_of_exist (h : ∀ q ∈ w.scheduled, doesExist q = true)
    (s : PlacedSpecifier) :
    w.unresolved? policy doesExist p s = Worklist.empty.unresolved? policy doesExist p s := by
  unfold unresolved?
  dsimp only
  -- what has been scheduled is there, and so it is not told in either case
  by_cases hscheduled : p.resolve s.1 ∈ w.scheduled
  · have hexists := h _ hscheduled
    simp [hexists]
  · have hnew : w.isScheduled (p.resolve s.1) = Worklist.empty.isScheduled (p.resolve s.1) := by
      simp [isScheduled, hscheduled, empty]
    rw [hnew]

/-- A file has the same issues whatever has been scheduled, if all of that exists. -/
theorem fileIssues_eq_of_exist (h : ∀ q ∈ w.scheduled, doesExist q = true) (text : String)
    (outcome : Outcome) :
    fileIssues policy doesExist w p text outcome
      = fileIssues policy doesExist .empty p text outcome := by
  have hunresolved : w.unresolved? policy doesExist p
      = Worklist.empty.unresolved? policy doesExist p := by
    funext s
    exact Worklist.unresolved?_eq_of_exist h s
  cases outcome with
  | ok x => rw [fileIssues, fileIssues, hunresolved]
  | error fault => cases fault <;> rfl

/-- A file in which a token cannot be read has one issue, and leads nowhere. -/
theorem Source.issuesOf_of_lex {e : LexError} (hload : source.load p = .ok text)
    (hlex : settings.outcome p text = .error (.lex e)) :
    source.issuesOf settings p = [Run.lexIssue p text e] ∧
      ∀ q, ¬ (source.read settings p).LeadsTo settings.imports source.doesExist q := by
  rw [issuesOf, read, hload]
  dsimp only
  rw [hlex]
  refine ⟨rfl, ?_⟩
  rintro q ⟨hdone, -⟩
  cases hdone

/-- A file with a text does not stop a run that passes over brackets that do not nest. -/
theorem Source.fault?_eq_none_of_skipFile (hskip : settings.onMismatch = .skipFile)
    (hload : source.load p = .ok text) : source.fault? settings p = none := by
  rw [fault?, hload, hskip]
  dsimp only
  cases settings.outcome p text with
  | ok x => rfl
  | error fault => cases fault <;> rfl

theorem Source.exists_load_ofTexts {texts : List (Path × String)}
    (h : (ofTexts texts).doesExist p = true) : ∃ text, (ofTexts texts).load p = .ok text := by
  cases hload : (ofTexts texts).load p with
  | ok text => exact ⟨text, rfl⟩
  | error fault =>
    obtain ⟨-, habsent⟩ := of_load_ofTexts hload
    cases h.symm.trans habsent

/-! ### Whole runs -/

namespace Run

variable {entries taken ps : List Path} {r final : Run} {error : Option RunError}

/-- What the step for a file does to the worklist and the issues of a run. -/
theorem Stands.process_issues {step : Step} (h : r.Stands source settings entries taken)
    (hnext : r.worklist.next = some (p, w))
    (hstep : Run.process { r with worklist := w } p (source.load p) source.doesExist = step) :
    (∀ text, source.load p = .ok text →
      step.run.worklist.scheduled = r.worklist.scheduled ++
        settings.imports.led source.doesExist w p (settings.outcome p text) ∧
      step.run.issues = r.issues ++
        fileIssues settings.imports source.doesExist w p text (settings.outcome p text)) ∧
    ∀ fault, source.load p = .error fault →
      step.run.worklist.scheduled = r.worklist.scheduled ∧ step.run.issues = r.issues ∧
        step.fault = some (.load fault) := by
  obtain ⟨rest, hqueue, rfl⟩ := next_eq_some_iff.1 hnext
  have hmodule : (module? { r with worklist := ⟨r.worklist.scheduled, rest⟩ } p).isSome = true :=
    h.isSome_module? (by simp [hqueue])
  obtain rfl := h.settings_eq
  constructor
  · intro text hload
    rw [hload, process_of_loaded hmodule, scan_eq] at hstep
    subst hstep
    exact ⟨rfl, rfl⟩
  · intro fault hload
    rw [hload, process_of_error hmodule] at hstep
    subst hstep
    exact ⟨rfl, rfl, rfl⟩

theorem addEntries_issues (settings : Settings) (entries : List Path) :
    ((start settings).addEntries entries).issues = [] := by
  have hstep : ∀ (r : Run) (p : Path), r.issues = [] → (r.addEntry p).1.issues = [] := by
    intro r p hr
    rw [addEntry_issues, hr]
  exact addEntries_invariant hstep entries rfl

/-- The issues of a run are those of its files, each by itself, if its entries exist. -/
theorem Drains.issues_eq (h : Drains source r ps final error)
    (hr : r.Stands source settings entries taken)
    (hexist : ∀ q ∈ entries.map Path.collapse, source.doesExist q = true) :
    final.issues = r.issues ++ ps.flatMap (source.issuesOf settings) := by
  have hstep : ∀ {r : Run} {taken : List Path} {p : Path} {w : Worklist} {step : Step},
      r.Stands source settings entries taken → r.worklist.next = some (p, w) →
      Run.process { r with worklist := w } p (source.load p) source.doesExist = step →
      step.run.issues = r.issues ++ source.issuesOf settings p := by
    intro r taken p w step hr hnext hprocess
    obtain ⟨hloaded, hunread⟩ := hr.process_issues hnext hprocess
    have hscheduled : ∀ q ∈ w.scheduled, source.doesExist q = true := by
      intro q hq
      obtain ⟨rest, -, rfl⟩ := next_eq_some_iff.1 hnext
      exact (hr.of_mem_scheduled hq).elim (hexist q) id
    rw [Source.issuesOf]
    cases hload : source.load p with
    | ok text => rw [(hloaded text hload).2, fileIssues_eq_of_exist hscheduled]
    | error fault => rw [(hunread fault hload).2.1, List.append_nil]
  -- what has been scheduled exists behind every step
  induction h generalizing taken with
  | finished => exact (List.append_nil _).symm
  | stopped hnext hprocess _ =>
    rw [List.flatMap_singleton]
    exact hstep hr hnext hprocess
  | goesOn hnext hprocess _ _ ih =>
    rw [ih (hr.process hnext hprocess).1, hstep hr hnext hprocess, List.flatMap_cons,
      List.append_assoc]

/-! ### The paths that a run takes -/

/-- What has been scheduled are the files that have been taken, and those that wait. -/
theorem Drains.scheduled_eq
    (h : Drains source ((start settings).addEntries entries) ps final error) :
    final.worklist.scheduled = ps ++ final.worklist.queue := by
  obtain ⟨hend, -⟩ := h.stands (stands_addEntries source settings entries)
  rw [hend.scheduled, List.nil_append]

theorem Drains.nodup (h : Drains source ((start settings).addEntries entries) ps final error) :
    ps.Nodup := by
  obtain ⟨hend, -⟩ := h.stands (stands_addEntries source settings entries)
  have hscheduled := hend.nodup
  rw [h.scheduled_eq] at hscheduled
  exact hscheduled.of_append_left

/-- A run that is not stopped visits every file that it starts from, and every file that one of
those leads to. -/
theorem Drains.closed (h : Drains source ((start settings).addEntries entries) ps final none) :
    final.worklist.queue = [] ∧ (∀ q ∈ entries.map Path.collapse, q ∈ ps) ∧
      ∀ p q, p ∈ ps → (source.read settings p).LeadsTo settings.imports source.doesExist q →
        q ∈ ps := by
  have hstart := stands_addEntries source settings entries
  obtain ⟨hend, -⟩ := h.stands hstart
  obtain ⟨hqueue, -⟩ := (h.faults hstart).1 rfl
  -- nothing waits any more, and what has been scheduled is closed under the links
  have hall : final.worklist.scheduled = ps := by
    rw [h.scheduled_eq, hqueue, List.append_nil]
  have hmem := hend.mem_scheduled
  rw [hall, List.nil_append] at hmem
  refine ⟨hqueue, fun q hq => (hmem q).2 (.inl hq), ?_⟩
  intro p q hp hleads
  exact (hmem q).2 (.inr ⟨p, hp, hleads⟩)

/-- A run that is not stopped and whose entries lead nowhere takes them in their order. -/
theorem Drains.eq_scheduled
    (h : Drains source ((start settings).addEntries entries) ps final none)
    (hstays : ∀ p ∈ ((start settings).addEntries entries).worklist.scheduled,
      ∀ q, ¬ (source.read settings p).LeadsTo settings.imports source.doesExist q) :
    ps = ((start settings).addEntries entries).worklist.scheduled := by
  have hstart := stands_addEntries source settings entries
  have hall : final.worklist.scheduled = ps := by
    rw [h.scheduled_eq, h.closed.1, List.append_nil]
  obtain ⟨added, hadded⟩ := (h.stands hstart).2
  have hentries : ∀ q ∈ final.worklist.scheduled,
      q ∈ ((start settings).addEntries entries).worklist.scheduled := by
    refine h.forall_scheduled hstart (fun q hq => ?_) (fun p q hp hleads => ?_) fun q hq => hq
    · exact (hstart.mem_scheduled q).2 (.inl hq)
    · exact absurd hleads (hstays p hp q)
  -- nothing is added, since it would be scheduled twice
  have hnone : added = [] := by
    have hnodup := (h.stands hstart).1.nodup
    rw [← hadded] at hnodup hentries
    refine List.eq_nil_iff_forall_not_mem.2 fun q hq => ?_
    have hentry := hentries q (List.mem_append_right _ hq)
    exact (List.nodup_append.1 hnodup).2.2 q hentry q hq rfl
  rw [← hall, ← hadded, hnone, List.append_nil]

/-- A run over texts that starts from existing files and passes over brackets that do not nest is not
stopped. -/
theorem error_eq_none_of_skipFile {texts : List (Path × String)}
    (hskip : settings.onMismatch = .skipFile)
    (hexist : ∀ p ∈ entries.map Path.collapse, (Source.ofTexts texts).doesExist p = true) :
    (drain (.ofTexts texts) ((start settings).addEntries entries)).error = none := by
  refine error_eq_none fun p hp => ?_
  -- what exists has a text, and a text does not stop the run
  obtain ⟨text, hload⟩ := Source.exists_load_ofTexts (hp.elim (hexist p) id)
  exact Source.fault?_eq_none_of_skipFile hskip hload

/-- The issues of a run over texts whose entries exist and lead nowhere are those of the entries. -/
theorem issues_eq_of_stays (texts : List (Path × String)) (settings : Settings)
    (entries : List Path) (hskip : settings.onMismatch = .skipFile)
    (hexist : ∀ p ∈ entries.map Path.collapse, p ∈ texts.map Prod.fst)
    (hstays : ∀ p ∈ entries.map Path.collapse, ∀ q,
      ¬ ((Source.ofTexts texts).read settings p).LeadsTo settings.imports
        (Source.ofTexts texts).doesExist q) :
    (drain (.ofTexts texts) ((start settings).addEntries entries)).run.issues
      = ((start settings).addEntries entries).worklist.scheduled.flatMap
          ((Source.ofTexts texts).issuesOf settings) := by
  obtain ⟨ps, hdrains, -⟩ := exists_drains (.ofTexts texts) settings entries
  have hstart := stands_addEntries (.ofTexts texts) settings entries
  have hexists : ∀ p ∈ entries.map Path.collapse, (Source.ofTexts texts).doesExist p = true :=
    fun p hp => List.contains_iff_mem.2 (hexist p hp)
  have hissues := hdrains.issues_eq hstart hexists
  rw [addEntries_issues, List.nil_append] at hissues
  rw [error_eq_none_of_skipFile hskip hexists] at hdrains
  have hentries : ∀ p ∈ ((start settings).addEntries entries).worklist.scheduled,
      p ∈ entries.map Path.collapse := by
    intro p hp
    exact ((hstart.mem_scheduled p).1 hp).resolve_right (by simp)
  rw [hissues, hdrains.eq_scheduled fun p hp => hstays p (hentries p hp)]

end Run

end

/-! ### Files that are shown alike -/

namespace Lookalike

/-- A file whose name is no text. -/
def first : Path := ⟨false, [.name (.raw ⟨[0x61, 0xff, 0x2e, 0x6a, 0x73], by decide⟩)]⟩

/-- Another one, whose name is shown like that of the first. -/
def second : Path := ⟨false, [.name (.raw ⟨[0x61, 0xfe, 0x2e, 0x6a, 0x73], by decide⟩)]⟩

/-- In neither file the first token can be read. -/
def texts : List (Path × String) := [(first, "'x"), (second, "'y")]

/-- Brackets that do not nest are passed over, and all imports are followed. -/
def settings : Settings := ⟨some .ecma, ⟨fun _ => true, fun _ => false, true⟩, .skipFile⟩

/-- The issue of the file with the given line. -/
def issue (line : String) : Issue :=
  ⟨⟨first.toString, 1, 1, line⟩, .lex LexFault.openString.message⟩

/-- Each file has one issue and leads nowhere. -/
theorem issuesOf_eq : ∀ file ∈ texts,
    (Source.ofTexts texts).issuesOf settings file.1 = [issue file.2] ∧
      ∀ q, ¬ ((Source.ofTexts texts).read settings file.1).LeadsTo settings.imports
        (Source.ofTexts texts).doesExist q := by
  -- each text is an open string
  have hlex : ∀ file ∈ texts, settings.outcome file.1 file.2
      = .error (.lex ⟨.openString, .start⟩) := by
    intro file hfile
    have hpull : (Lexer.ofText .ecma file.2.toList).pull
        = .fault ⟨.openString, .start⟩
          { Lexer.ofText .ecma file.2.toList with failed := true } := by
      revert file
      decide
    exact congrArg PassResult.outcome
      (Pass.run_of_ends (p := Pass.ofLexer (.ofText .ecma file.2.toList)) (.fault _ _ hpull))
  have hissue : ∀ file ∈ texts, (Source.ofTexts texts).load file.1 = .ok file.2 ∧
      Run.lexIssue file.1 file.2 ⟨.openString, .start⟩ = issue file.2 := by
    simp only [texts, List.forall_mem_cons, List.not_mem_nil, false_imp_iff, implies_true, and_true]
    exact ⟨⟨rfl, by decide +kernel⟩, rfl, by decide +kernel⟩
  intro file hfile
  obtain ⟨hload, hissue⟩ := hissue file hfile
  rw [← hissue]
  exact Source.issuesOf_of_lex hload (hlex file hfile)

/-- A run that starts from both files finds their issues in the order of its entries. -/
theorem issues_of_pair {a b : Path × String} (ha : a ∈ texts) (hb : b ∈ texts) (hne : a ≠ b) :
    (Run.drain (.ofTexts texts) ((Run.start settings).addEntries [a.1, b.1])).run.issues
      = [issue a.2, issue b.2] := by
  have hscheduled : ∀ a ∈ texts, ∀ b ∈ texts, a ≠ b →
      ((Run.start settings).addEntries [a.1, b.1]).worklist.scheduled = [a.1, b.1] := by
    decide
  have hentries : ∀ p ∈ [a.1, b.1].map Path.collapse, ∃ file ∈ texts, file.1 = p := by
    have hcollapse : ∀ file ∈ texts, file.1.collapse = file.1 := by decide
    simp only [List.map_cons, List.map_nil, List.forall_mem_cons, List.not_mem_nil, false_imp_iff,
      implies_true, and_true]
    exact ⟨⟨a, ha, (hcollapse a ha).symm⟩, b, hb, (hcollapse b hb).symm⟩
  rw [Run.issues_eq_of_stays texts settings [a.1, b.1] rfl, hscheduled a ha b hb hne]
  · simp [(issuesOf_eq a ha).1, (issuesOf_eq b hb).1]
  · intro p hp
    obtain ⟨file, hfile, rfl⟩ := hentries p hp
    exact List.mem_map_of_mem hfile
  · intro p hp
    obtain ⟨file, hfile, rfl⟩ := hentries p hp
    exact (issuesOf_eq file hfile).2

end Lookalike

end ImportScan
