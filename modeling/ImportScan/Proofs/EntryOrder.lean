import ImportScan.Proofs.IssueOrder

/-!
# The order of entries

Two runs over the same texts start from the same files, though these may be given in another order,
more than once or by other names.  When all of these files exist and nothing stops the runs, both
visit the same files.  What becomes of a file and which issues it has does not depend on the files
visited before it, so that the runs differ in nothing but the order of their modules and issues; and
issues are sorted before they are shown.  The sorting looks at how files are shown, and tells no two of
them apart that are shown alike.

## Main results

* `Run.Drains.perm` — two runs that start from the same files take the same paths.
* `Run.drain_entries_perm` — **the order of the entries does not matter**.
* `Run.drain_entries_perm_lookalike` — it matters for issues in files that are shown alike.
-/

namespace ImportScan

namespace Run

variable {source : Source} {settings : Settings} {entries entries' ps ps' : List Path}
  {final final' : Run} {error : Option RunError}

/-- A run that is not stopped visits all that another one visits, if both start from the same
files. -/
theorem Drains.subset (h : Drains source ((start settings).addEntries entries) ps final error)
    (h' : Drains source ((start settings).addEntries entries') ps' final' none)
    (hsame : ∀ q ∈ entries.map Path.collapse, q ∈ entries'.map Path.collapse) : ps ⊆ ps' := by
  have hstart := stands_addEntries source settings entries
  obtain ⟨-, hentries, hleads⟩ := h'.closed
  have hscheduled : ∀ q ∈ final.worklist.scheduled, q ∈ ps' := by
    refine h.forall_scheduled hstart (fun q hq => hentries q (hsame q hq)) hleads ?_
    intro q hq
    have hentry := (hstart.mem_scheduled q).1 hq
    exact hentries q (hsame q (hentry.resolve_right (by simp)))
  intro q hq
  apply hscheduled
  rw [h.scheduled_eq]
  exact List.mem_append_left _ hq

/-- Two runs that start from the same files and are not stopped take the same paths. -/
theorem Drains.perm (h : Drains source ((start settings).addEntries entries) ps final none)
    (h' : Drains source ((start settings).addEntries entries') ps' final' none)
    (hsame : ∀ q, q ∈ entries.map Path.collapse ↔ q ∈ entries'.map Path.collapse) :
    ps.Perm ps' := by
  rw [List.perm_ext_iff_of_nodup h.nodup h'.nodup]
  intro q
  constructor
  · intro hq
    exact h.subset h' (fun q => (hsame q).1) hq
  · intro hq
    exact h'.subset h (fun q => (hsame q).2) hq

/-- **The order of the entries does not matter.**  Two runs over some texts start from the same
files, all of which exist, and pass over brackets that do not nest.  Neither of them is stopped, and
both have the same modules and the same issues up to their order.  The same is shown of the issues if
no two of the modules are shown alike, as when the entries are texts. -/
theorem drain_entries_perm (texts : List (Path × String)) (settings : Settings)
    (entries entries' : List Path) (hskip : settings.onMismatch = .skipFile)
    (hsame : ∀ p, p ∈ entries.map Path.collapse ↔ p ∈ entries'.map Path.collapse)
    (hexist : ∀ p ∈ entries.map Path.collapse, p ∈ texts.map Prod.fst) :
    let result := drain (.ofTexts texts) ((start settings).addEntries entries)
    let result' := drain (.ofTexts texts) ((start settings).addEntries entries')
    result.error = none ∧ result'.error = none ∧
      result.run.modules.Perm result'.run.modules ∧ result.run.issues.Perm result'.run.issues ∧
      ((result.run.modules.map fun m => m.path.toString).Nodup →
        ∀ colours, render colours (issueReport result.run.issues)
          = render colours (issueReport result'.run.issues)) ∧
      ((∀ p ∈ entries, p.IsPlain) → (result.run.modules.map fun m => m.path.toString).Nodup) := by
  intro result result'
  have hexists : ∀ p ∈ entries.map Path.collapse, (Source.ofTexts texts).doesExist p = true := by
    intro p hp
    exact List.contains_iff_mem.2 (hexist p hp)
  have hexists' : ∀ p ∈ entries'.map Path.collapse, (Source.ofTexts texts).doesExist p = true :=
    fun p hp => hexists p ((hsame p).2 hp)
  -- neither run is stopped
  have herror : result.error = none := error_eq_none_of_skipFile hskip hexists
  have herror' : result'.error = none := error_eq_none_of_skipFile hskip hexists'
  obtain ⟨ps, hdrains, hend, -⟩ := exists_drains (.ofTexts texts) settings entries
  obtain ⟨ps', hdrains', hend', -⟩ := exists_drains (.ofTexts texts) settings entries'
  -- what a run finds is told file by file, and both visit the same files
  have hissues := hdrains.issues_eq (stands_addEntries _ _ _) hexists
  have hissues' := hdrains'.issues_eq (stands_addEntries _ _ _) hexists'
  rw [addEntries_issues, List.nil_append] at hissues hissues'
  have hplaces := hdrains.nodup_place
  have hnames := hdrains.nodup_names
  rw [herror] at hdrains
  rw [herror'] at hdrains'
  have hperm := hdrains.perm hdrains' hsame
  have hissuesPerm : result.run.issues.Perm result'.run.issues := by
    rw [hissues, hissues']
    exact hperm.flatMap_right _
  have hmodules : result.run.modules = ps.map ((Source.ofTexts texts).read settings) := by
    rw [hend.modules, hdrains.closed.1]
    exact List.append_nil _
  have hmodules' : result'.run.modules = ps'.map ((Source.ofTexts texts).read settings) := by
    rw [hend'.modules, hdrains'.closed.1]
    exact List.append_nil _
  have hshown : result.run.modules.map (fun m => m.path.toString) = ps.map Path.toString := by
    rw [hmodules, Source.map_toString_read]
  rw [hshown]
  refine ⟨herror, herror', ?_, hissuesPerm, fun hnodup colours => ?_, hnames⟩
  · rw [hmodules, hmodules']
    exact hperm.map _
  · rw [issueReport_eq_of_perm hissuesPerm (hplaces hnodup)]

/-- Two files that are named in another order, one of them twice and with a detour. -/
theorem drain_entries_perm_detour :
    ∃ (texts : List (Path × String)) (settings : Settings) (entries entries' : List Path),
      entries.length ≠ entries'.length ∧ settings.onMismatch = .skipFile ∧
      (∀ p, p ∈ entries.map Path.collapse ↔ p ∈ entries'.map Path.collapse) ∧
      (∀ p ∈ entries.map Path.collapse, p ∈ texts.map Prod.fst) ∧
      let result := drain (.ofTexts texts) ((start settings).addEntries entries)
      let result' := drain (.ofTexts texts) ((start settings).addEntries entries')
      result.error = none ∧ result'.error = none ∧
        result.run.modules.Perm result'.run.modules ∧ result.run.issues.Perm result'.run.issues ∧
        ∀ colours, render colours (issueReport result.run.issues)
          = render colours (issueReport result'.run.issues) := by
  let texts : List (Path × String) :=
    [(⟨false, [.name "a.js"]⟩, "import x from './gone.js';\nimport from 'c';\n"),
      (⟨false, [.name "b.js"]⟩, "let b = (1];\n")]
  let settings : Settings := ⟨some .ecma, ⟨fun _ => true, fun _ => false, true⟩, .skipFile⟩
  let entries := ["a.js", "b.js"].map Path.ofString
  let entries' := ["./b.js", "src/../a.js", "b.js"].map Path.ofString
  have hentries : entries.map Path.collapse = texts.map Prod.fst := by
    decide +kernel
  have hentries' : entries'.map Path.collapse
      = [⟨false, [.name "b.js"]⟩, ⟨false, [.name "a.js"]⟩, ⟨false, [.name "b.js"]⟩] := by
    decide +kernel
  have hsame : ∀ p, p ∈ entries.map Path.collapse ↔ p ∈ entries'.map Path.collapse := by
    intro p
    rw [hentries, hentries']
    simp only [texts, List.map_cons, List.map_nil, List.mem_cons, List.not_mem_nil, or_false]
    tauto
  have hexist : ∀ p ∈ entries.map Path.collapse, p ∈ texts.map Prod.fst := by
    intro p hp
    rwa [hentries] at hp
  -- names that are texts are not shown alike
  have hplain : ∀ p ∈ entries, p.IsPlain := by
    intro p hp
    obtain ⟨name, -, rfl⟩ := List.mem_map.1 hp
    exact Path.isPlain_ofString name
  obtain ⟨herror, herror', hmodules, hissues, hreport, hnames⟩ :=
    drain_entries_perm texts settings entries entries' rfl hsame hexist
  exact ⟨texts, settings, entries, entries', by decide, rfl, hsame, hexist, herror, herror',
    hmodules, hissues, hreport (hnames hplain)⟩

/-- Two files that are shown alike, whose issues are shown in the order of the entries. -/
theorem drain_entries_perm_lookalike :
    let result := drain (.ofTexts Lookalike.texts)
      ((start Lookalike.settings).addEntries [Lookalike.first, Lookalike.second])
    let result' := drain (.ofTexts Lookalike.texts)
      ((start Lookalike.settings).addEntries [Lookalike.second, Lookalike.first])
    Lookalike.settings.onMismatch = .skipFile ∧
      (∀ p, p ∈ [Lookalike.first, Lookalike.second].map Path.collapse ↔
        p ∈ [Lookalike.second, Lookalike.first].map Path.collapse) ∧
      (∀ p ∈ [Lookalike.first, Lookalike.second].map Path.collapse,
        p ∈ Lookalike.texts.map Prod.fst) ∧
      render false (issueReport result.run.issues)
        ≠ render false (issueReport result'.run.issues) := by
  intro result result'
  have hissues : result.run.issues = [Lookalike.issue "'x", Lookalike.issue "'y"] :=
    Lookalike.issues_of_pair (a := (Lookalike.first, "'x")) (b := (Lookalike.second, "'y"))
      (by simp [Lookalike.texts]) (by simp [Lookalike.texts]) (by simp)
  have hissues' : result'.run.issues = [Lookalike.issue "'y", Lookalike.issue "'x"] :=
    Lookalike.issues_of_pair (a := (Lookalike.second, "'y")) (b := (Lookalike.first, "'x"))
      (by simp [Lookalike.texts]) (by simp [Lookalike.texts]) (by simp)
  have halike : ∀ line line', (Lookalike.issue line).precedes (Lookalike.issue line') = true := by
    intro line line'
    simp [Issue.precedes, Issue.compare, Lookalike.issue]
  refine ⟨rfl, fun p => ?_, by decide, ?_⟩
  · simp [or_comm]
  · -- issues that compare equal keep their order
    have hkept : ∀ line line', sortIssues [Lookalike.issue line, Lookalike.issue line']
        = [Lookalike.issue line, Lookalike.issue line'] := by
      intro line line'
      exact sortIssues_eq_self (by simp [halike])
    rw [hissues, hissues', issueReport, issueReport, hkept, hkept]
    decide +kernel

end Run

end ImportScan
